import LightningGoats.Ledger.Books

/-! # Conservation of the feed credit -/

namespace LightningGoats

open Outcome Relational

namespace Books

variable {db : Db}

theorem entries_nodup (db : Db) : db.ledgerEntries.rows.Nodup :=
  db.ledgerEntries.rows_nodup fun _ => sameKey_iff.mpr ⟨_, rfl, rfl⟩

theorem entries_of_settlement (books : Books db) {row : SettledPaymentRow}
    (settled : row ∈ db.settledPayments.rows) :
    (db.ledgerEntries.rows.filter fun entry =>
      entry.paymentSource = some row.source && entry.paymentSourceId = some row.sourceId) =
        [row.entry] := by
  refine filter_eq_singleton (entries_nodup db) (books.settled row settled)
    (by simp [SettledPaymentRow.entry]) fun entry member selected => ?_
  simp only [Bool.and_eq_true, decide_eq_true_eq] at selected
  cases books.counterparts entry member with
  | settlement other otherSettled isEntry =>
      subst isEntry
      have same : other = row := db.settledPayments.row_eq_of_clash otherSettled settled
        (.inl (sameKey_iff.mpr ⟨_, rfl, by
          rw [Option.some.inj selected.1, Option.some.inj selected.2]⟩))
      rw [same]
  | debit attempt _ _ isEntry =>
      subst isEntry
      cases selected.1
  | grant grant valuation _ isEntry =>
      subst isEntry
      cases selected.1

theorem entries_of_attempt (books : Books db) {attempt : FeedAttempt}
    (attempted : attempt ∈ db.feedAttempts.rows) (confirmed : attempt.status = .confirmed) :
    (db.ledgerEntries.rows.filter fun entry =>
      entry.feedAttemptId = some attempt.id.toText) = [attempt.debit] := by
  refine filter_eq_singleton (entries_nodup db) (books.confirmed attempt attempted confirmed)
    (by simp [FeedAttempt.debit, debitEntry]) fun entry member selected => ?_
  rw [decide_eq_true_eq] at selected
  cases books.counterparts entry member with
  | settlement row _ isEntry =>
      subst isEntry
      cases selected
  | debit other otherAttempted _ isEntry =>
      subst isEntry
      have sameId : other.id = attempt.id := Uuid.toText_injective (Option.some.inj selected)
      have same : other = attempt := db.feedAttempts.row_eq_of_clash otherAttempted attempted
        (.inl (sameKey_iff.mpr ⟨_, rfl, by rw [sameId]⟩))
      rw [same]
  | grant grant valuation _ isEntry =>
      subst isEntry
      cases selected

end Books

/-- In every reachable state the balance can be read, is what was settled plus
the XMR credit less what confirmed attempts cost, and fits the database. Every
settlement and every confirmed attempt has exactly one entry, and a call that
fails changes nothing. -/
theorem feedCredit_conserved [SerdeJson] {labels : List LedgerLabel} {db : Db}
    (run : LedgerRun Db.fresh labels db) :
    (∃ credit, sqlSum (db.ledgerEntries.rows.map LedgerEntry.deltaSats) = .ok credit ∧
      credit = settledSats db + xmrSats db - fedSats db ∧ 0 ≤ credit ∧ credit ≤ maxI64) ∧
    (∀ row ∈ db.settledPayments.rows, ∃ entry,
      (db.ledgerEntries.rows.filter fun entry =>
        entry.paymentSource = some row.source && entry.paymentSourceId = some row.sourceId) =
          [entry] ∧ entry.deltaSats = row.amountMsat / 1000) ∧
    (∀ attempt ∈ db.feedAttempts.rows, attempt.status = .confirmed → ∃ entry,
      (db.ledgerEntries.rows.filter fun entry =>
        entry.feedAttemptId = some attempt.id.toText) = [entry] ∧
          entry.deltaSats = -attempt.thresholdSats) ∧
    ∀ call now error, (execute call now db).1 = .error error →
      (execute call now db).2 = db := by
  have books := Books.of_run run
  have sound := CreditSound.of_run run
  refine ⟨?_, ?_, ?_, ?_⟩
  · rcases books.readable with ⟨credit, read⟩
    have total := feedCredit_total read
    refine ⟨credit, feedCredit_eq_ok.mp read, ?_, Int.natCast_nonneg _, ?_⟩
    · rw [total, books.balanced, xmrSats_eq sound.tables, fedSats_eq]
    · rw [total]
      exact books.bounded
  · exact fun row settled => ⟨_, books.entries_of_settlement settled, rfl⟩
  · exact fun attempt attempted confirmed =>
      ⟨_, books.entries_of_attempt attempted confirmed, rfl⟩
  · intro call now error failed
    have step : LedgerStep db ⟨call, now, (execute call now db).1⟩ (execute call now db).2 := rfl
    exact ledgerStep_error step failed

theorem feedCredit_conserved_example :
    (settledSats exampleDb, xmrSats exampleDb, fedSats exampleDb) = (5, 1, 3) ∧
      ∃ credit, sqlSum (exampleDb.ledgerEntries.rows.map LedgerEntry.deltaSats) = .ok credit ∧
        credit = settledSats exampleDb + xmrSats exampleDb - fedSats exampleDb ∧
        0 ≤ credit ∧ credit ≤ maxI64 :=
  ⟨by decide +kernel, (@feedCredit_conserved exampleJson _ _ exampleRun).1⟩

end LightningGoats
