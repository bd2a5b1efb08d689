import StockMonitoring.Api.Routers
import StockMonitoring.Application.CheckHistory
import StockMonitoring.Foundation.Series

set_option autoImplicit false

/-!
# Api: the price history against the observations

The monitor stores a snapshot only when something fires.  `PriceSeries` is the
invariant of the snapshots of a target over a history of checks: at every instant the
last of them has the price of the last observation.  The endpoint reads the snapshots
from the start of its window on, which changes no value from its first point on, and
answers nothing where there is no datetime that far back.
-/

namespace StockMonitoring.Api

open StockMonitoring.Foundation StockMonitoring.Domain StockMonitoring.Application
  StockMonitoring.Infrastructure.Db

/-! ## The stored prices -/

/-- The stored snapshots are a series with the prices of the observations. -/
structure PriceSeries (snapshots : List SnapshotModel) (history : List ProviderProductResult) :
    Prop where
  increasing : snapshots.Pairwise fun row other => row.timestamp < other.timestamp
  stamps : ∀ row ∈ snapshots, ∃ result ∈ history, row.timestamp = result.scrapedAt
  price : ∀ t row, lastUpTo SnapshotModel.timestamp snapshots t = some row →
    ∃ result, lastUpTo ProviderProductResult.scrapedAt history t = some result ∧
      row.price = result.price

/-- The last row of a series is the newest. -/
theorem newest_eq_getLast? (tie : Nat → Nat) {snapshots : List SnapshotModel}
    (hincreasing : snapshots.Pairwise fun row other => row.timestamp < other.timestamp) :
    newest tie SnapshotModel.timestamp snapshots = snapshots.getLast? := by
  rcases snapshots.eq_nil_or_concat' with rfl | ⟨earlier, row, rfl⟩
  · rfl
  · rw [List.getLast?_concat]
    apply newest_concat_of_lt
    intro old hold
    exact (List.pairwise_append.mp hincreasing).2.2 old hold row (List.mem_singleton_self _)

section PriceSeries

variable {snapshots : List SnapshotModel} {history : List ProviderProductResult}
  {result : ProviderProductResult}

/-- An observation that fires nothing has the price of the latest snapshot. -/
theorem PriceSeries.quiet (hseries : PriceSeries snapshots history)
    (hnewer : ∀ earlier ∈ history, earlier.scrapedAt < result.scrapedAt) {tie : Nat → Nat}
    (hquiet : diffSnapshots
      ((newest tie SnapshotModel.timestamp snapshots).map toSnapshot) result = []) :
    PriceSeries snapshots (history ++ [result]) := by
  refine ⟨hseries.increasing, ?_, ?_⟩
  · intro row hrow
    obtain ⟨earlier, hearlier, hstamp⟩ := hseries.stamps row hrow
    exact ⟨earlier, List.mem_append_left _ hearlier, hstamp⟩
  · intro t row hlast
    by_cases hle : result.scrapedAt ≤ t
    · refine ⟨result, lastUpTo_concat_of_le hle, ?_⟩
      have hpast : ∀ old ∈ snapshots, old.timestamp ≤ t := by
        intro old hold
        obtain ⟨earlier, hearlier, hstamp⟩ := hseries.stamps old hold
        rw [hstamp]
        exact Int.le_trans (Int.le_of_lt (hnewer earlier hearlier)) hle
      rw [lastUpTo_of_forall_le hpast, ← newest_eq_getLast? tie hseries.increasing]
        at hlast
      rw [hlast] at hquiet
      exact (follows_of_not_changed (diffSnapshots_eq_nil_iff.mp hquiet)).price
    · rw [lastUpTo_concat_of_lt (not_le.mp hle)]
      exact hseries.price t row hlast

/-- An observation that fires something is stored with its price. -/
theorem PriceSeries.fired (hseries : PriceSeries snapshots history)
    (hnewer : ∀ earlier ∈ history, earlier.scrapedAt < result.scrapedAt) {row : SnapshotModel}
    (hstamp : row.timestamp = result.scrapedAt) (hprice : row.price = result.price) :
    PriceSeries (snapshots ++ [row]) (history ++ [result]) := by
  refine ⟨?_, ?_, ?_⟩
  · refine List.pairwise_append.mpr ⟨hseries.increasing, List.pairwise_singleton _ _, ?_⟩
    intro old hold new hnew
    obtain ⟨earlier, hearlier, hstamp_old⟩ := hseries.stamps old hold
    rw [List.mem_singleton.mp hnew, hstamp_old, hstamp]
    exact hnewer earlier hearlier
  · intro other hother
    rcases List.mem_append.mp hother with hold | hnew
    · obtain ⟨earlier, hearlier, hstamp_old⟩ := hseries.stamps other hold
      exact ⟨earlier, List.mem_append_left _ hearlier, hstamp_old⟩
    · rw [List.mem_singleton.mp hnew]
      exact ⟨result, List.mem_append_right _ (List.mem_singleton_self _), hstamp⟩
  · intro t other hlast
    by_cases hle : result.scrapedAt ≤ t
    · rw [lastUpTo_concat_of_le (Int.le_trans (Int.le_of_eq hstamp) hle)] at hlast
      rw [← Option.some.inj hlast]
      exact ⟨result, lastUpTo_concat_of_le hle, hprice⟩
    · have hlt : t < row.timestamp := Int.lt_of_lt_of_le (not_le.mp hle) (Int.le_of_eq hstamp.symm)
      rw [lastUpTo_concat_of_lt hlt] at hlast
      rw [lastUpTo_concat_of_lt (not_le.mp hle)]
      exact hseries.price t other hlast

end PriceSeries

/-- The run lemma: the series keeps the prices over any history of checks. -/
theorem priceSeries_history {config : MonitorConfig} {watchTarget : WatchTarget} {id : Nat}
    {store : MonitorStore} {checks : List Check}
    (hwatched : Watched config watchTarget id store checks) :
    PriceSeries (SqlAlchemySnapshotRepository.ofTarget
      (storeAfter config watchTarget checks store).db id) (observations checks) := by
  induction checks using List.reverseRecOn with
  | nil =>
      change PriceSeries (SqlAlchemySnapshotRepository.ofTarget store.db id) []
      rw [hwatched.unseen]
      exact ⟨List.Pairwise.nil, fun row hrow => (by cases hrow),
        fun t row hlast => (by cases hlast)⟩
  | append_singleton earlier check ih =>
      have hseries := ih hwatched.of_append
      have hnewer := hwatched.newer
      have hforeign := hwatched.foreign check (List.mem_append_right _ (List.mem_singleton_self _))
      have hpersisted := (tracks_history hwatched.of_append).persisted
      rw [storeAfter_concat, observations_concat]
      rcases runCheck_cases hwatched.hasId hwatched.registered hforeign hpersisted rfl with
        ⟨hquiet, _, hview⟩ | ⟨result, snapshotId, rows, hobservation, _, _, _, hview⟩
      · have hsnapshots := congrArg TargetView.snapshots hview
        change SqlAlchemySnapshotRepository.ofTarget _ id = _ at hsnapshots
        rw [hsnapshots]
        cases hobservation : check.observation with
        | none =>
            rw [Option.toList_none, List.append_nil]
            exact hseries
        | some result =>
            rw [hobservation] at hquiet
            exact hseries.quiet (hnewer result hobservation) hquiet
      · have hsnapshots := congrArg TargetView.snapshots hview
        change SqlAlchemySnapshotRepository.ofTarget _ id = _ at hsnapshots
        rw [hsnapshots, hobservation]
        exact hseries.fired (hnewer result hobservation) rfl rfl

/-! ## The endpoint -/

/-- The points `price_history` makes of the snapshots of its window. -/
def pricePoints (snapshots : List SnapshotModel) (since : Datetime) : List PricePointSchema :=
  (snapshots.filter fun row => decide (since ≤ row.timestamp)).map fun row =>
    PricePointSchema.of (toSnapshot row)

theorem mem_pricePoints {snapshots : List SnapshotModel} {since : Datetime}
    {point : PricePointSchema} :
    point ∈ pricePoints snapshots since ↔
      ∃ row ∈ snapshots, since ≤ row.timestamp ∧ point = PricePointSchema.of (toSnapshot row) := by
  simp only [pricePoints, List.mem_map, List.mem_filter, decide_eq_true_eq, and_assoc]
  exact exists_congr fun row => and_congr_right' (and_congr_right' eq_comm)

section Endpoint

variable {tie : Nat → Nat} {turns : Nat → ApiTurn} {db : Database} {watchId userId : Nat}
  {row : WatchModel} {days : Int}

/-- What `GET /analytics/price-history` answers the owner of a watch. -/
theorem priceHistory_eq (hreturns : ∀ turn, (turns turn).failure = none)
    (hfind : db.watches.find? watchId = some row) (howner : row.userId = userId)
    (hdate : HasDaysBefore (turns 1).now days)
    (hincreasing : (SqlAlchemySnapshotRepository.ofTarget db row.watchTargetId).Pairwise
      fun row other => row.timestamp < other.timestamp) :
    (runHandler tie turns (priceHistory watchId days userId) db).result =
      .ok (pricePoints (SqlAlchemySnapshotRepository.ofTarget db row.watchTargetId)
        ((turns 1).now - daysOf days)) := by
  have hnow : apiRespond tie .now (turns 1) db = (.ok (turns 1).now, db) :=
    apiRespond_of_none (hreturns 1)
  have hlist : apiRespond tie (.listSince row.watchTargetId ((turns 1).now - daysOf days))
      (turns 2) db = (.ok (((SqlAlchemySnapshotRepository.ofTarget db row.watchTargetId).filter
        fun row => decide ((turns 1).now - daysOf days ≤ row.timestamp)).map toSnapshot), db) := by
    rw [apiRespond_of_none (hreturns 2)]
    simp only [apiWork, SqlAlchemySnapshotRepository.listSince]
    rw [orderAsc_eq_self tie SnapshotModel.timestamp (hincreasing.filter _)]
  unfold runHandler priceHistory pricePoints
  rw [exec_ownedWatch hfind howner (hreturns 0), exec_askApi hnow, daysBefore_of_has hdate]
  change ((askApi (.listSince row.watchTargetId ((turns 1).now - daysOf days)) >>= _).exec _
    _).result = _
  rw [exec_askApi hlist]
  change Except.ok (List.map _ (List.map _ _)) = _
  rw [List.map_map]
  rfl

/-- A window that starts before the first datetime makes the endpoint raise. -/
theorem priceHistory_raises (hreturns : ∀ turn, (turns turn).failure = none)
    (hfind : db.watches.find? watchId = some row) (howner : row.userId = userId)
    (hdate : ¬ HasDaysBefore (turns 1).now days) :
    ∃ message, (runHandler tie turns (priceHistory watchId days userId) db).result =
      .error (.overflowError message) := by
  have hnow : apiRespond tie .now (turns 1) db = (.ok (turns 1).now, db) :=
    apiRespond_of_none (hreturns 1)
  obtain ⟨message, hraises⟩ := daysBefore_of_not hdate
  refine ⟨message, ?_⟩
  unfold runHandler priceHistory
  rw [exec_ownedWatch hfind howner (hreturns 0), exec_askApi hnow, hraises]
  rfl

end Endpoint

/-- The price history is a lossless compression of the observations: its points are those
of the snapshots stored in the window, they ascend, and from the first of them on the last
point at or before an instant has the price of the last observation at or before it.  The
endpoint answers unless its window starts before the first datetime. -/
theorem price_history_lossless {config : MonitorConfig} {watchTarget : WatchTarget} {id : Nat}
    {store : MonitorStore} {checks : List Check}
    (hwatched : Watched config watchTarget id store checks) {turns : Nat → ApiTurn}
    (hreturns : ∀ turn, (turns turn).failure = none) {watchId userId : Nat} {row : WatchModel}
    (hfind : (storeAfter config watchTarget checks store).db.watches.find? watchId = some row)
    (howner : row.userId = userId) (htarget : row.watchTargetId = id) (days : Int) :
    (HasDaysBefore (turns 1).now days ↔
      ∃ points, (runHandler config.tie turns (priceHistory watchId days userId)
        (storeAfter config watchTarget checks store).db).result = .ok points) ∧
    ∀ points, (runHandler config.tie turns (priceHistory watchId days userId)
        (storeAfter config watchTarget checks store).db).result = .ok points →
      (∀ point, point ∈ points ↔ ∃ snapshot ∈ SqlAlchemySnapshotRepository.ofTarget
        (storeAfter config watchTarget checks store).db id,
          (turns 1).now - daysOf days ≤ snapshot.timestamp ∧
            point = PricePointSchema.of (toSnapshot snapshot)) ∧
      (points.Pairwise fun point other => point.timestamp < other.timestamp) ∧
      ∀ first, points.head? = some first → ∀ t, first.timestamp ≤ t →
        ∃ point observation, lastUpTo PricePointSchema.timestamp points t = some point ∧
          lastUpTo ProviderProductResult.scrapedAt (observations checks) t = some observation ∧
          point.price = observation.price := by
  subst htarget
  have hseries := priceSeries_history hwatched
  have hanswers := @priceHistory_eq config.tie turns _ watchId userId row days hreturns hfind howner
  have hdates : ∀ {points}, (runHandler config.tie turns (priceHistory watchId days userId)
      (storeAfter config watchTarget checks store).db).result = .ok points →
        HasDaysBefore (turns 1).now days := by
    intro points hanswer
    by_contra hdate
    obtain ⟨message, hraises⟩ := @priceHistory_raises config.tie turns _ watchId userId row days
      hreturns hfind howner hdate
    cases hanswer.symm.trans hraises
  refine ⟨⟨fun hdate => ⟨_, hanswers hdate hseries.increasing⟩,
    fun ⟨_, hanswer⟩ => hdates hanswer⟩, ?_⟩
  intro points hanswer
  obtain rfl := Except.ok.inj (hanswer.symm.trans (hanswers (hdates hanswer) hseries.increasing))
  refine ⟨fun point => mem_pricePoints, ?_, ?_⟩
  · exact List.pairwise_map.mpr (hseries.increasing.filter _)
  · intro first hfirst t hle
    obtain ⟨head, hhead, rfl⟩ := List.mem_map.mp (List.mem_of_head? hfirst)
    have hmem := List.mem_of_mem_filter hhead
    obtain ⟨last, hlast⟩ := exists_lastUpTo SnapshotModel.timestamp hmem hle
    obtain ⟨observation, hobservation, hprice⟩ := hseries.price t last hlast
    refine ⟨PricePointSchema.of (toSnapshot last), observation, ?_, hobservation, hprice⟩
    unfold pricePoints
    rw [lastUpTo_map SnapshotModel.timestamp
      (fun row => PricePointSchema.of (toSnapshot row)) PricePointSchema.timestamp fun _ => rfl,
      lastUpTo_since hseries.increasing hhead hle, hlast]
    rfl

/-- The checks of the milk with a watch of user 10 on it. -/
def watchedMilkStore : MonitorStore :=
  { milkStore with
    db := { milkStore.db with
      watches := Table.empty.insert fun id => ⟨id, 10, 1, 1, 600, true⟩ } }

theorem milk_watch : (storeAfter milkConfig milk milkChecks watchedMilkStore).db.watches.find? 1 =
    some ⟨1, 10, 1, 1, 600, true⟩ := by decide +kernel

theorem milk_price_history_lossless :
    ∃ points, (runHandler milkConfig.tie (fun _ => ⟨daysOf 1, none⟩) (priceHistory 1 30 10)
        (storeAfter milkConfig milk milkChecks watchedMilkStore).db).result = .ok points ∧
      (∀ point, point ∈ points ↔ ∃ snapshot ∈ SqlAlchemySnapshotRepository.ofTarget
        (storeAfter milkConfig milk milkChecks watchedMilkStore).db 1,
          daysOf 1 - daysOf 30 ≤ snapshot.timestamp ∧
            point = PricePointSchema.of (toSnapshot snapshot)) ∧
      (points.Pairwise fun point other => point.timestamp < other.timestamp) ∧
      ∀ first, points.head? = some first → ∀ t, first.timestamp ≤ t →
        ∃ point observation, lastUpTo PricePointSchema.timestamp points t = some point ∧
          lastUpTo ProviderProductResult.scrapedAt (observations milkChecks) t =
            some observation ∧
          point.price = observation.price := by
  have hlossless := @price_history_lossless milkConfig milk 1 watchedMilkStore milkChecks
    ⟨rfl, milk_watched.registered, rfl, rfl, milk_watched.foreign, milk_watched.increasing⟩
    (fun _ => ⟨daysOf 1, none⟩) (fun _ => rfl) 1 10 ⟨1, 10, 1, 1, 600, true⟩ milk_watch rfl rfl 30
  obtain ⟨points, hanswer⟩ := hlossless.1.mp (by decide)
  exact ⟨points, hanswer, hlossless.2 points hanswer⟩

end StockMonitoring.Api
