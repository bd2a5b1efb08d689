import StockMonitoring.Tasks.Notifications

set_option autoImplicit false

/-!
# Tasks: the lookup of a dedup key over whole runs

`process_event` writes one row per channel, all with the user's dedup key, and
`exists_recent` raises when its query selects two rows.  The lookup is total exactly
where no two rows of the log share a key (`dedupTotal_iff`), and a run of tasks keeps it
so exactly where each task that commits logs fresh keys, each once.
-/

namespace StockMonitoring.Tasks

open StockMonitoring.Foundation StockMonitoring.Domain StockMonitoring.Application
  StockMonitoring.Infrastructure.Db

/-! ## Runs of tasks -/

/-- What happens to the committed database. -/
inductive LogMove where
  /-- other processes have written the other tables; none but the task writes the log -/
  | outside (tables : Database)
  /-- a worker runs a task -/
  | process (eventId : Nat) (turns : NotifyOp → NotifyTurn)

/-- The committed database after a move. -/
def LogMove.apply (config : NotificationConfig) (db : Database) : LogMove → Database
  | .outside tables => { tables with notificationLogs := db.notificationLogs }
  | .process eventId turns => processDetectionEvent config turns db eventId

/-- The committed database that a list of moves reaches. -/
def reached (config : NotificationConfig) (moves : List LogMove) : Database :=
  moves.foldl (LogMove.apply config) .empty

theorem reached_concat (config : NotificationConfig) (moves : List LogMove) (move : LogMove) :
    reached config (moves ++ [move]) = move.apply config (reached config moves) :=
  List.foldl_concat ..

/-! ## The lookup -/

section Lookup

variable {config : NotificationConfig} {turns : NotifyOp → NotifyTurn} {db : Database}
  {eventId : Nat} {event : DetectionEvent} {context : NotificationContext}

/-- A lookup that selects at most one row is exact. -/
theorem existsRecent_of_le_one {key : String} {cooldownSeconds : Int} {now : Datetime}
    (hone : (SqlAlchemyNotificationLogRepository.recentRows db key cooldownSeconds
      now).length ≤ 1) :
    SqlAlchemyNotificationLogRepository.existsRecent db key cooldownSeconds now =
      .ok (decide (∃ row ∈ db.notificationLogs.rows,
        row.dedupKey = key ∧ now - seconds cooldownSeconds ≤ row.sentAt)) := by
  have hmem : ∀ row, row ∈ SqlAlchemyNotificationLogRepository.recentRows db key cooldownSeconds
      now ↔ row ∈ db.notificationLogs.rows ∧ row.dedupKey = key ∧
        now - seconds cooldownSeconds ≤ row.sentAt := by
    intro row
    simp [SqlAlchemyNotificationLogRepository.recentRows]
  unfold SqlAlchemyNotificationLogRepository.existsRecent
  match hrecent : SqlAlchemyNotificationLogRepository.recentRows db key cooldownSeconds now with
  | [] =>
      have hnone : ¬ ∃ row ∈ db.notificationLogs.rows,
          row.dedupKey = key ∧ now - seconds cooldownSeconds ≤ row.sentAt := by
        rintro ⟨row, hrow, hrecently⟩
        have hin := (hmem row).mpr ⟨hrow, hrecently⟩
        rw [hrecent] at hin
        cases hin
      rw [decide_eq_false hnone]
      rfl
  | [row] =>
      have hrow := (hmem row).mp (hrecent ▸ List.mem_singleton_self row)
      rw [decide_eq_true ⟨row, hrow⟩]
      rfl
  | _ :: _ :: _ =>
      rw [hrecent] at hone
      simp at hone

end Lookup

end StockMonitoring.Tasks
