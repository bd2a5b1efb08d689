import StockMonitoring.Api.Routers
import StockMonitoring.Application.Downtime
import StockMonitoring.Foundation.Lists

set_option autoImplicit false

/-!
# Api: the availability endpoint against the stock signal

The stored stock events of a target are the changes of a signal.  The endpoint reads
the events of its window, at most 1000 of them, newest first, so it does not know what
the signal was when the window starts, nor the oldest events of a busy window.
`reportsTruth_iff` says when its figures are those of the signal all the same.  A window
that would begin before the first datetime makes it raise (`availabilitySummary_raises`).
-/

namespace StockMonitoring.Api

open StockMonitoring.Foundation StockMonitoring.Domain StockMonitoring.Application
  StockMonitoring.Infrastructure.Db

/-! ## What is stored -/

/-- The stored stock events of a target, in the order in which they were stored. -/
def stockHistory (db : Database) (watchTargetId : Nat) : List DetectionEvent :=
  ((SqlAlchemyDetectionEventRepository.ofTarget db watchTargetId).map toDetectionEvent).filter
    DetectionEvent.isStock

/-- An event history as the monitor stores it, up to the time `now` of a request. -/
structure StoredHistory (db : Database) (watchTargetId : Nat) (now : Datetime) : Prop where
  alternates : Alternates ((SqlAlchemyDetectionEventRepository.ofTarget db watchTargetId).map
    DetectionEventModel.eventType)
  increasing : InOrder DetectionEvent.createdAt (stockHistory db watchTargetId)
  past : ∀ event ∈ stockHistory db watchTargetId, event.createdAt ≤ now

/-! ## What the endpoint reports -/

section Figures

variable (tie : Nat → Nat) (db : Database) (watchTargetId : Nat) (periodStart periodEnd : Datetime)

/-- The events the endpoint reads. -/
def listedEvents : List DetectionEvent :=
  SqlAlchemyDetectionEventRepository.listForWatchTarget tie db watchTargetId 1000
    (some periodStart)

/-- The figures of the endpoint before they are rounded. -/
def reportedFigures : AvailabilitySummary :=
  availabilityFigures (listedEvents tie db watchTargetId periodStart) periodStart periodEnd

/-- The length of the instants of the window at which the latest stock event of the whole
history is OUT_OF_STOCK, in minutes. -/
noncomputable def trueDowntimeMinutes : ℝ :=
  offTime DetectionEvent.createdAt DetectionEvent.isOut (stockHistory db watchTargetId)
    periodStart periodEnd / 1000000 / 60

/-- The part of the window that is left, in per cent. -/
noncomputable def trueAvailabilityPct : ℝ :=
  100 * (1 - trueDowntimeMinutes db watchTargetId periodStart periodEnd /
    (minutes (periodEnd - periodStart) : ℝ))

/-- The two figures are those of the signal. -/
structure ReportsTruth : Prop where
  totalDowntime : ((reportedFigures tie db watchTargetId periodStart periodEnd).totalDowntimeMinutes
    : ℝ) = trueDowntimeMinutes db watchTargetId periodStart periodEnd
  availability :
    ((reportedFigures tie db watchTargetId periodStart periodEnd).availabilityPct : ℝ) =
    trueAvailabilityPct db watchTargetId periodStart periodEnd

/-- Every outage of the window is known from the events the endpoint reads. -/
structure OutagesKnown : Prop where
  /-- an outage from before the window is over when the window starts -/
  ended : ∀ outage ∈ stockHistory db watchTargetId, DetectionEvent.isOut outage = true →
    outage.createdAt < periodStart →
    ∃ event ∈ stockHistory db watchTargetId, outage.createdAt < event.createdAt ∧
      event.createdAt ≤ periodStart
  /-- an outage that begins in the window is among the events read -/
  listed : ∀ outage ∈ stockHistory db watchTargetId, DetectionEvent.isOut outage = true →
    periodStart ≤ outage.createdAt → outage.createdAt < periodEnd →
    outage ∈ listedEvents tie db watchTargetId periodStart

end Figures

section Window

variable {tie : Nat → Nat} {db : Database} {watchTargetId : Nat}
  {periodStart periodEnd : Datetime}

/-! ## The events of the window -/

theorem toDetectionEvent_injective : Function.Injective toDetectionEvent := by
  intro row other hsame
  obtain ⟨id, watchTargetId, snapshotId, previousSnapshotId, eventType, createdAt⟩ := row
  obtain ⟨id', watchTargetId', snapshotId', previousSnapshotId', eventType', createdAt'⟩ := other
  simp only [toDetectionEvent, DetectionEvent.mk.injEq, Option.some.injEq] at hsame
  obtain ⟨rfl, rfl, rfl, rfl, rfl, rfl⟩ := hsame
  rfl

/-- An event is read only if it is one of the target's, from the window on. -/
theorem mem_of_mem_listedEvents {event : DetectionEvent}
    (hlisted : event ∈ listedEvents tie db watchTargetId periodStart) :
    event ∈ (SqlAlchemyDetectionEventRepository.ofTarget db watchTargetId).map toDetectionEvent ∧
      periodStart ≤ event.createdAt := by
  obtain ⟨row, hrow, rfl⟩ := List.mem_map.mp hlisted
  have hselected := (mem_orderDesc tie _).mp (List.mem_of_mem_take hrow)
  obtain ⟨htarget, hsince⟩ := List.mem_filter.mp hselected
  exact ⟨List.mem_map_of_mem htarget, of_decide_eq_true hsince⟩

/-- With an event every later one is read. -/
theorem listedEvents_upward {event other : DetectionEvent}
    (hlisted : event ∈ listedEvents tie db watchTargetId periodStart)
    (hother : other ∈ (SqlAlchemyDetectionEventRepository.ofTarget db watchTargetId).map
      toDetectionEvent)
    (hlater : event.createdAt < other.createdAt) :
    other ∈ listedEvents tie db watchTargetId periodStart := by
  have hstart := (mem_of_mem_listedEvents hlisted).2
  obtain ⟨row, hrow, rfl⟩ := List.mem_map.mp hlisted
  obtain ⟨later, hmem, rfl⟩ := List.mem_map.mp hother
  have hselected : later ∈
      SqlAlchemyDetectionEventRepository.selected db watchTargetId (some periodStart) :=
    List.mem_filter.mpr ⟨hmem, decide_eq_true (Int.le_trans hstart (Int.le_of_lt hlater))⟩
  exact List.mem_map_of_mem (mem_take_of_newer hrow hselected hlater)

theorem listedEvents_nodup : (listedEvents tie db watchTargetId periodStart).Nodup := by
  have hrows : db.detectionEvents.rows.Nodup := db.detectionEvents.keys_nodup.of_map _
  have hselected : (SqlAlchemyDetectionEventRepository.selected db watchTargetId
      (some periodStart)).Nodup := (hrows.filter _).filter _
  have hordered := (orderDesc_perm tie DetectionEventModel.createdAt
    (SqlAlchemyDetectionEventRepository.selected db watchTargetId
      (some periodStart))).nodup_iff.mpr hselected
  exact (hordered.sublist (List.take_sublist _ _)).map toDetectionEvent_injective

variable (tie db watchTargetId periodStart) in
/-- The stock events that the endpoint reads. -/
def readHistory : List DetectionEvent :=
  (stockHistory db watchTargetId).filter fun event =>
    decide (event ∈ listedEvents tie db watchTargetId periodStart)

variable (tie db watchTargetId periodStart) in
/-- The stock events that it does not read. -/
def unreadHistory : List DetectionEvent :=
  (stockHistory db watchTargetId).filter fun event =>
    !decide (event ∈ listedEvents tie db watchTargetId periodStart)

theorem mem_readHistory {event : DetectionEvent} :
    event ∈ readHistory tie db watchTargetId periodStart ↔
      event ∈ stockHistory db watchTargetId ∧
        event ∈ listedEvents tie db watchTargetId periodStart := by
  simp [readHistory]

theorem mem_unreadHistory {event : DetectionEvent} :
    event ∈ unreadHistory tie db watchTargetId periodStart ↔
      event ∈ stockHistory db watchTargetId ∧
        event ∉ listedEvents tie db watchTargetId periodStart := by
  simp [unreadHistory]

/-- The endpoint reads the end of the history. -/
theorem unread_append_read (tie : Nat → Nat) (periodStart : Datetime)
    (hincreasing : InOrder DetectionEvent.createdAt (stockHistory db watchTargetId)) :
    unreadHistory tie db watchTargetId periodStart ++
      readHistory tie db watchTargetId periodStart = stockHistory db watchTargetId := by
  apply filter_not_append_filter
  refine List.Pairwise.imp_of_mem ?_ hincreasing
  intro event other _ hother hlater hread
  have hmem := (List.mem_filter.mp hother).1
  exact decide_eq_true (listedEvents_upward (of_decide_eq_true hread) hmem hlater)

/-- Up to their order, the stock events among those read are the end of the history. -/
theorem listedEvents_perm
    (hincreasing : InOrder DetectionEvent.createdAt (stockHistory db watchTargetId)) :
    ((listedEvents tie db watchTargetId periodStart).filter DetectionEvent.isStock).Perm
      (readHistory tie db watchTargetId periodStart) := by
  have hhistory : (stockHistory db watchTargetId).Nodup := by
    refine hincreasing.imp ?_
    rintro event other hlt rfl
    exact Int.lt_irrefl _ hlt
  refine (List.perm_ext_iff_of_nodup (listedEvents_nodup.filter _) (hhistory.filter _)).mpr ?_
  intro event
  change _ ↔ event ∈ readHistory tie db watchTargetId periodStart
  rw [mem_readHistory, List.mem_filter, stockHistory, List.mem_filter]
  constructor
  · rintro ⟨hlisted, hstock⟩
    exact ⟨⟨(mem_of_mem_listedEvents hlisted).1, hstock⟩, hlisted⟩
  · rintro ⟨⟨_, hstock⟩, hlisted⟩
    exact ⟨hlisted, hstock⟩

/-- Stored histories are in turns. -/
theorem StoredHistory.inTurns {now : Datetime} (hstored : StoredHistory db watchTargetId now) :
    InTurns (stockHistory db watchTargetId) := by
  have htypes : ((SqlAlchemyDetectionEventRepository.ofTarget db watchTargetId).map
      DetectionEventModel.eventType).filter isStockEvent =
        (stockHistory db watchTargetId).map DetectionEvent.eventType := by
    unfold stockHistory
    rw [List.filter_map, List.filter_map, List.map_map]
    rfl
  have halternate := hstored.alternates.alternate
  rw [htypes, List.isChain_map] at halternate
  exact halternate

/-- So are their ends. -/
theorem inTurns_readHistory {now : Datetime} (hstored : StoredHistory db watchTargetId now) :
    InTurns (readHistory tie db watchTargetId periodStart) := by
  have hturns := hstored.inTurns
  rw [← unread_append_read tie periodStart hstored.increasing] at hturns
  exact (List.isChain_append.mp hturns).2.1

theorem reported_totalDowntime (hstored : StoredHistory db watchTargetId periodEnd) :
    (reportedFigures tie db watchTargetId periodStart periodEnd).totalDowntimeMinutes =
      minutes (offGaps DetectionEvent.createdAt DetectionEvent.isOut
        (readHistory tie db watchTargetId periodStart) periodEnd) := by
  have hincreasing : InOrder DetectionEvent.createdAt
      (readHistory tie db watchTargetId periodStart) := hstored.increasing.filter _
  change minutes (totalDowntime _) = _
  rw [totalDowntime_eq periodEnd hincreasing (listedEvents_perm hstored.increasing)
    (inTurns_readHistory hstored)]

/-! ## The figures against the signal -/

/-- The signal is off before the first event read only if an outage is unknown. -/
theorem unread_off_iff (hstored : StoredHistory db watchTargetId periodEnd)
    (hperiod : periodStart < periodEnd) :
    (∀ t : ℝ, (periodStart : ℝ) ≤ t →
        t < firstTime DetectionEvent.createdAt (readHistory tie db watchTargetId periodStart)
          periodEnd →
        ¬ OffAt DetectionEvent.createdAt DetectionEvent.isOut
          (unreadHistory tie db watchTargetId periodStart) t) ↔
      OutagesKnown tie db watchTargetId periodStart periodEnd := by
  have hsplit := unread_append_read tie periodStart hstored.increasing
  have horder := hstored.increasing
  rw [← hsplit] at horder
  obtain ⟨_, hread, hbefore⟩ := List.pairwise_append.mp horder
  -- an event of the history is read or not
  have hcases : ∀ event ∈ stockHistory db watchTargetId,
      event ∈ unreadHistory tie db watchTargetId periodStart ∨
        event ∈ readHistory tie db watchTargetId periodStart := by
    intro event hevent
    rw [← hsplit] at hevent
    exact List.mem_append.mp hevent
  have hread_start : ∀ event ∈ readHistory tie db watchTargetId periodStart,
      periodStart ≤ event.createdAt := fun event hevent =>
    (mem_of_mem_listedEvents (mem_readHistory.mp hevent).2).2
  constructor
  · intro hnever
    refine ⟨?_, ?_⟩
    · intro outage houtage hout hlt
      by_contra hnone
      push Not at hnone
      have hunread : outage ∈ unreadHistory tie db watchTargetId periodStart := by
        rcases hcases outage houtage with hunread | hread
        · exact hunread
        · exact absurd (hread_start outage hread) (not_le.mpr hlt)
      have hfirst : periodStart < firstTime DetectionEvent.createdAt
          (readHistory tie db watchTargetId periodStart) periodEnd := by
        refine Int.lt_of_lt_of_le (Int.lt_succ periodStart) (le_firstTime hperiod ?_)
        intro event hevent
        have hlater := hbefore outage hunread event hevent
        exact hnone event (mem_readHistory.mp hevent).1 hlater
      refine hnever periodStart le_rfl (Int.cast_lt.mpr hfirst)
        ⟨outage, hunread, hout, Int.cast_le.mpr (Int.le_of_lt hlt), ?_⟩
      intro other hother hle
      by_contra hlater
      exact absurd (hnone other (mem_unreadHistory.mp hother).1 (not_le.mp hlater))
        (not_lt.mpr (Int.cast_le.mp hle))
    · intro outage houtage hout hstart hend
      by_contra hnot
      have hunread : outage ∈ unreadHistory tie db watchTargetId periodStart :=
        mem_unreadHistory.mpr ⟨houtage, hnot⟩
      have hfirst : outage.createdAt < firstTime DetectionEvent.createdAt
          (readHistory tie db watchTargetId periodStart) periodEnd :=
        Int.lt_of_lt_of_le (Int.lt_succ _) (le_firstTime hend fun event hevent =>
          hbefore outage hunread event hevent)
      exact hnever outage.createdAt (Int.cast_le.mpr hstart) (Int.cast_lt.mpr hfirst)
        ⟨outage, hunread, hout, le_rfl, fun other _ hle => Int.cast_le.mp hle⟩
  · rintro hknown t hstart hfirst ⟨outage, hunread, hout, hle, hlast⟩
    obtain ⟨houtage, hnot⟩ := mem_unreadHistory.mp hunread
    by_cases hin : periodStart ≤ outage.createdAt
    · have hend : firstTime DetectionEvent.createdAt
          (readHistory tie db watchTargetId periodStart) periodEnd ≤ periodEnd :=
        firstTime_le_stop fun event hevent => hstored.past event (mem_readHistory.mp hevent).1
      have hlt : outage.createdAt < periodEnd :=
        Int.lt_of_lt_of_le (Int.cast_lt.mp (hle.trans_lt hfirst)) hend
      exact hnot (hknown.listed outage houtage hout hin hlt)
    · obtain ⟨event, hevent, hlater, hended⟩ := hknown.ended outage houtage hout (not_le.mp hin)
      have hevent_le : (event.createdAt : ℝ) ≤ t := (Int.cast_le.mpr hended).trans hstart
      rcases hcases event hevent with hunread' | hread'
      · exact absurd (hlast event hunread' hevent_le) (not_le.mpr hlater)
      · have hafter : firstTime DetectionEvent.createdAt
            (readHistory tie db watchTargetId periodStart) periodEnd ≤ event.createdAt :=
          firstTime_le hread hread'
        exact absurd ((Int.cast_le.mpr hafter).trans hevent_le) (not_le.mpr hfirst)

/-- The total is that of the signal exactly when every outage of the window is known. -/
theorem totalDowntime_true_iff (hstored : StoredHistory db watchTargetId periodEnd)
    (hperiod : periodStart < periodEnd) :
    ((reportedFigures tie db watchTargetId periodStart periodEnd).totalDowntimeMinutes : ℝ) =
        trueDowntimeMinutes db watchTargetId periodStart periodEnd ↔
      OutagesKnown tie db watchTargetId periodStart periodEnd := by
  have hsplit := unread_append_read tie periodStart hstored.increasing
  have horder := hstored.increasing
  rw [← hsplit] at horder
  have hwindow : ∀ event ∈ readHistory tie db watchTargetId periodStart,
      periodStart ≤ event.createdAt ∧ event.createdAt ≤ periodEnd := fun event hevent =>
    ⟨(mem_of_mem_listedEvents (mem_readHistory.mp hevent).2).2,
      hstored.past event (mem_readHistory.mp hevent).1⟩
  have hminutes : ∀ gaps time : ℝ, gaps / 1000000 / 60 = time / 1000000 / 60 ↔ gaps = time := by
    intro gaps time
    constructor
    · intro h
      linarith
    · intro h
      rw [h]
  rw [← unread_off_iff hstored hperiod, ← offMeasure_eq_zero_iff,
    ← offTime_append_eq_iff horder (Int.le_of_lt hperiod) hwindow, hsplit,
    reported_totalDowntime hstored]
  unfold minutes trueDowntimeMinutes
  push_cast
  exact hminutes _ _

/-- With the right total the percentage is right too: no outage is longer than the window. -/
theorem availabilityPct_true (hperiod : periodStart < periodEnd)
    (htotal : ((reportedFigures tie db watchTargetId periodStart periodEnd).totalDowntimeMinutes
      : ℝ) = trueDowntimeMinutes db watchTargetId periodStart periodEnd) :
    ((reportedFigures tie db watchTargetId periodStart periodEnd).availabilityPct : ℝ) =
      trueAvailabilityPct db watchTargetId periodStart periodEnd := by
  have hlength : (0 : Rat) < minutes (periodEnd - periodStart) := by
    have hpos : (0 : Rat) < ((periodEnd - periodStart : Int) : Rat) :=
      Int.cast_pos.mpr (Int.sub_pos.mpr hperiod)
    unfold minutes
    positivity
  have hlength' : (0 : ℝ) < (minutes (periodEnd - periodStart) : ℝ) := Rat.cast_pos.mpr hlength
  have hbounded : trueDowntimeMinutes db watchTargetId periodStart periodEnd ≤
      (minutes (periodEnd - periodStart) : ℝ) := by
    have hle : offTime DetectionEvent.createdAt DetectionEvent.isOut
        (stockHistory db watchTargetId) periodStart periodEnd ≤
          ((periodEnd - periodStart : Int) : ℝ) := offTime_le (Int.le_of_lt hperiod)
    unfold trueDowntimeMinutes minutes
    push_cast at hle ⊢
    linarith
  have hpct : (reportedFigures tie db watchTargetId periodStart periodEnd).availabilityPct =
      max 0 (100 * (1 - (reportedFigures tie db watchTargetId periodStart
        periodEnd).totalDowntimeMinutes / minutes (periodEnd - periodStart))) :=
    if_neg (not_le.mpr hlength)
  have hshare : trueDowntimeMinutes db watchTargetId periodStart periodEnd /
      (minutes (periodEnd - periodStart) : ℝ) ≤ 1 := (div_le_one hlength').mpr hbounded
  rw [hpct, trueAvailabilityPct, ← htotal]
  rw [← htotal] at hshare
  push_cast
  apply max_eq_right
  linarith

/-- The figures are those of the signal exactly when every outage of the window is known. -/
theorem reportsTruth_iff (hstored : StoredHistory db watchTargetId periodEnd)
    (hperiod : periodStart < periodEnd) :
    ReportsTruth tie db watchTargetId periodStart periodEnd ↔
      OutagesKnown tie db watchTargetId periodStart periodEnd := by
  rw [← totalDowntime_true_iff hstored hperiod]
  constructor
  · intro htruth
    exact htruth.totalDowntime
  · intro htotal
    exact ⟨htotal, availabilityPct_true hperiod htotal⟩

end Window

/-! ## The endpoint -/

section Endpoint

variable {tie : Nat → Nat} {turns : Nat → ApiTurn} {db : Database} {watchId userId : Nat}
  {row : WatchModel} {days : Int}

/-- What `GET /analytics/availability` answers the owner of a watch. -/
theorem availabilitySummary_eq (hreturns : ∀ turn, (turns turn).failure = none)
    (hfind : db.watches.find? watchId = some row) (howner : row.userId = userId)
    (hdate : HasDaysBefore (turns 1).now days) :
    (runHandler tie turns (availabilitySummary watchId days userId) db).result =
      .ok (reportedFigures tie db row.watchTargetId ((turns 1).now - daysOf days)
        (turns 1).now).rounded := by
  have hnow : apiRespond tie .now (turns 1) db = (.ok (turns 1).now, db) :=
    apiRespond_of_none (hreturns 1)
  have hlist : apiRespond tie (.listEvents row.watchTargetId 1000
      (some ((turns 1).now - daysOf days))) (turns 2) db =
      (.ok (listedEvents tie db row.watchTargetId ((turns 1).now - daysOf days)), db) :=
    apiRespond_of_none (hreturns 2)
  unfold runHandler availabilitySummary
  rw [exec_ownedWatch hfind howner (hreturns 0), exec_askApi hnow, daysBefore_of_has hdate]
  simp only [Outcome.after_result]
  change ((askApi (.listEvents row.watchTargetId 1000
    (some ((turns 1).now - daysOf days))) >>= _).exec _ _).result = _
  rw [exec_askApi hlist]
  rfl

/-- A window that starts before the first datetime makes the endpoint raise. -/
theorem availabilitySummary_raises (hreturns : ∀ turn, (turns turn).failure = none)
    (hfind : db.watches.find? watchId = some row) (howner : row.userId = userId)
    (hdate : ¬ HasDaysBefore (turns 1).now days) :
    ∃ message, (runHandler tie turns (availabilitySummary watchId days userId) db).result =
      .error (.overflowError message) := by
  have hnow : apiRespond tie .now (turns 1) db = (.ok (turns 1).now, db) :=
    apiRespond_of_none (hreturns 1)
  obtain ⟨message, hraises⟩ := daysBefore_of_not hdate
  refine ⟨message, ?_⟩
  unfold runHandler availabilitySummary
  rw [exec_ownedWatch hfind howner (hreturns 0), exec_askApi hnow, hraises]
  rfl

end Endpoint

/-- An outage that began two days before the window and has not ended: the endpoint
reports a window of one day wholly in stock. -/
def outageDb : Database :=
  { Database.empty with
    watches := Table.empty.insert fun id => ⟨id, 10, 1, 1, 300, true⟩
    detectionEvents := (Table.empty.insert fun id =>
      ⟨id, 1, 1, none, .stockAvailable, daysOf 0⟩).insert fun id =>
        ⟨id, 1, 2, some 1, .outOfStock, daysOf 1⟩ }

@[inherit_doc outageDb] def outageTurns : Nat → ApiTurn := fun _ => ⟨daysOf 4, none⟩

theorem outage_stored : StoredHistory outageDb 1 (daysOf 4) := by
  have hincreasing : (stockHistory outageDb 1).Pairwise fun event other =>
      event.createdAt < other.createdAt := by decide
  exact ⟨⟨by decide, by decide⟩, hincreasing, by decide⟩

theorem outage_true_downtime : trueDowntimeMinutes outageDb 1 (daysOf 3) (daysOf 4) = 1440 := by
  have hset : {t : ℝ | ((daysOf 3 : Int) : ℝ) ≤ t ∧ t ≤ ((daysOf 4 : Int) : ℝ) ∧
      OffAt DetectionEvent.createdAt DetectionEvent.isOut (stockHistory outageDb 1) t} =
      Set.Icc ((daysOf 3 : Int) : ℝ) ((daysOf 4 : Int) : ℝ) := by
    ext t
    constructor
    · rintro ⟨hstart, hstop, _⟩
      exact ⟨hstart, hstop⟩
    · rintro ⟨hstart, hstop⟩
      refine ⟨hstart, hstop, ⟨some 2, 1, 2, some 1, .outOfStock, daysOf 1⟩, by decide, rfl, ?_, ?_⟩
      · refine le_trans ?_ hstart
        exact Int.cast_le.mpr (by decide)
      · have hlast : ∀ other ∈ stockHistory outageDb 1, other.createdAt ≤ daysOf 1 := by decide
        exact fun other hother _ => hlast other hother
  unfold trueDowntimeMinutes offTime
  rw [hset, Real.volume_Icc, ENNReal.toReal_ofReal]
  · norm_num [daysOf, seconds]
  · norm_num [daysOf, seconds]

/-- The product was out of stock all day; the endpoint reports no downtime. -/
theorem outage_not_reported :
    StoredHistory outageDb 1 (daysOf 4) ∧
      (runHandler (fun key => key) outageTurns (availabilitySummary 1 1 10) outageDb).result =
        .ok ⟨100, 0, 0, 0⟩ ∧
      trueDowntimeMinutes outageDb 1 (daysOf 3) (daysOf 4) = 1440 ∧
      trueAvailabilityPct outageDb 1 (daysOf 3) (daysOf 4) = 0 := by
  refine ⟨outage_stored, ?_, outage_true_downtime, ?_⟩
  · have hfind : outageDb.watches.find? 1 = some ⟨1, 10, 1, 1, 300, true⟩ := rfl
    rw [availabilitySummary_eq (fun _ => rfl) hfind rfl (by decide)]
    decide +kernel
  · rw [trueAvailabilityPct, outage_true_downtime]
    norm_num [minutes, daysOf, seconds]

/-- `GET /analytics/availability` answers with the out-of-stock time of its window exactly
when the window has a first datetime, no outage of it begins before it, and the endpoint
reads every outage of it. -/
theorem availability_reports_truth_iff {tie : Nat → Nat} {turns : Nat → ApiTurn}
    (hreturns : ∀ turn, (turns turn).failure = none) {db : Database} {watchId userId : Nat}
    {row : WatchModel} (hfind : db.watches.find? watchId = some row)
    (howner : row.userId = userId) {days : Int} (hdays : 0 < days)
    (hstored : StoredHistory db row.watchTargetId (turns 1).now) :
    (HasDaysBefore (turns 1).now days →
      (runHandler tie turns (availabilitySummary watchId days userId) db).result =
        .ok (reportedFigures tie db row.watchTargetId ((turns 1).now - daysOf days)
          (turns 1).now).rounded) ∧
      ((runHandler tie turns (availabilitySummary watchId days userId) db).result =
          .ok (reportedFigures tie db row.watchTargetId ((turns 1).now - daysOf days)
            (turns 1).now).rounded ∧
        ReportsTruth tie db row.watchTargetId ((turns 1).now - daysOf days) (turns 1).now ↔
          HasDaysBefore (turns 1).now days ∧
            OutagesKnown tie db row.watchTargetId ((turns 1).now - daysOf days)
              (turns 1).now) := by
  have hperiod : (turns 1).now - daysOf days < (turns 1).now := by
    have hlength : 0 < days * 86400 * 1000000 := by omega
    exact Int.sub_lt_self _ hlength
  have htruth := @reportsTruth_iff tie db row.watchTargetId _ _ hstored hperiod
  refine ⟨availabilitySummary_eq hreturns hfind howner, ?_, ?_⟩
  · rintro ⟨hanswer, hreports⟩
    refine ⟨?_, htruth.mp hreports⟩
    by_contra hdate
    obtain ⟨message, hraises⟩ := availabilitySummary_raises hreturns hfind howner hdate
    cases hanswer.symm.trans hraises
  · rintro ⟨hdate, hknown⟩
    exact ⟨availabilitySummary_eq hreturns hfind howner hdate, htruth.mpr hknown⟩

theorem outage_reports_truth_iff :
    (HasDaysBefore (daysOf 4) 1 →
      (runHandler (fun key => key) outageTurns (availabilitySummary 1 1 10) outageDb).result =
        .ok (reportedFigures (fun key => key) outageDb 1 (daysOf 4 - daysOf 1)
          (daysOf 4)).rounded) ∧
      ((runHandler (fun key => key) outageTurns (availabilitySummary 1 1 10) outageDb).result =
          .ok (reportedFigures (fun key => key) outageDb 1 (daysOf 4 - daysOf 1)
            (daysOf 4)).rounded ∧
        ReportsTruth (fun key => key) outageDb 1 (daysOf 4 - daysOf 1) (daysOf 4) ↔
          HasDaysBefore (daysOf 4) 1 ∧
            OutagesKnown (fun key => key) outageDb 1 (daysOf 4 - daysOf 1) (daysOf 4)) :=
  @availability_reports_truth_iff (fun key => key) outageTurns (fun _ => rfl) outageDb 1 10
    ⟨1, 10, 1, 1, 300, true⟩ rfl rfl 1 (by decide) outage_stored

end StockMonitoring.Api
