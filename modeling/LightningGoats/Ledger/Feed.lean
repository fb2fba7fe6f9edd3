import LightningGoats.Ledger.Events

/-! # Feed attempts

An attempt reserves no credit. It is debited when it is confirmed, and at most
one attempt is unresolved at a time.
-/

namespace LightningGoats

open Outcome Relational

/-- `UPDATE feed_attempts` on selected rows, all of them unresolved. -/
structure AttemptUpdate where
  selected : FeedAttempt → Bool
  assign : FeedAttempt → FeedAttempt
  unresolved : ∀ attempt, selected attempt = true → attempt.status.isUnresolved = true
  sameId : ∀ attempt, (assign attempt).id = attempt.id
  sameThreshold : ∀ attempt, (assign attempt).thresholdSats = attempt.thresholdSats

namespace AttemptUpdate

/-- `SET status = 'unknown', error = …` -/
def toUnknown (selected : FeedAttempt → Bool)
    (unresolved : ∀ attempt, selected attempt = true → attempt.status.isUnresolved = true)
    (error : String) : AttemptUpdate where
  selected := selected
  assign := fun attempt => { attempt with status := .unknown, error := some error }
  unresolved := unresolved
  sameId _ := rfl
  sameThreshold _ := rfl

/-- `SET status = …, resolved_at = unixepoch(), error = NULL` -/
def resolve (selected : FeedAttempt → Bool)
    (unresolved : ∀ attempt, selected attempt = true → attempt.status.isUnresolved = true)
    (status : FeedAttemptStatus) (now : Int) : AttemptUpdate where
  selected := selected
  assign := fun attempt =>
    { attempt with status := status, resolvedAt := some now, error := none }
  unresolved := unresolved
  sameId _ := rfl
  sameThreshold _ := rfl

def apply (update : AttemptUpdate) (attempt : FeedAttempt) : FeedAttempt :=
  if update.selected attempt then update.assign attempt else attempt

@[simp] theorem apply_id (update : AttemptUpdate) (attempt : FeedAttempt) :
    (update.apply attempt).id = attempt.id := by
  unfold apply
  split
  · exact update.sameId attempt
  · rfl

@[simp] theorem apply_thresholdSats (update : AttemptUpdate) (attempt : FeedAttempt) :
    (update.apply attempt).thresholdSats = attempt.thresholdSats := by
  unfold apply
  split
  · exact update.sameThreshold attempt
  · rfl

theorem unresolved_of_apply (update : AttemptUpdate) {attempt : FeedAttempt}
    (isUnresolved : (update.apply attempt).status.isUnresolved = true) :
    attempt.status.isUnresolved = true := by
  unfold apply at isUnresolved
  split at isUnresolved
  · rename_i selected
    exact update.unresolved attempt selected
  · exact isUnresolved

theorem apply_of_resolved (update : AttemptUpdate) {attempt : FeedAttempt}
    (resolved : attempt.status.isUnresolved = false) : update.apply attempt = attempt := by
  unfold apply
  split
  · rename_i selected
    rw [update.unresolved attempt selected] at resolved
    cases resolved
  · rfl

theorem clash_of_apply (update : AttemptUpdate) (left right : FeedAttempt)
    (clashes : FeedAttempt.Clash (update.apply left) (update.apply right)) :
    FeedAttempt.Clash left right := by
  rcases clashes with sameIds | bothUnresolved
  · exact .inl (sameIds.of_preserved (by simp) (by simp))
  · refine .inr ?_
    rw [sameKey_iff] at bothUnresolved ⊢
    rcases bothUnresolved with ⟨⟨⟩, leftKey, rightKey⟩
    have leftUnresolved : left.status.isUnresolved = true :=
      update.unresolved_of_apply (by simpa using leftKey)
    have rightUnresolved : right.status.isUnresolved = true :=
      update.unresolved_of_apply (by simpa using rightKey)
    exact ⟨(), by simp [leftUnresolved], by simp [rightUnresolved]⟩

end AttemptUpdate

def updateAttempts (update : AttemptUpdate) (db : Db) : Db × Nat :=
  ({ db with feedAttempts := db.feedAttempts.update update.apply update.clash_of_apply },
    (db.feedAttempts.rows.filter update.selected).length)

/-- The row `WHERE id = ? AND status = ?`. -/
def isAttempt (id : Uuid) (status : FeedAttemptStatus) (attempt : FeedAttempt) : Bool :=
  attempt.id = id && attempt.status = status

theorem unresolved_of_isAttempt {id : Uuid} {status : FeedAttemptStatus}
    (expected : status.isUnresolved = true) (attempt : FeedAttempt)
    (selected : isAttempt id status attempt = true) :
    attempt.status.isUnresolved = true := by
  simp only [isAttempt, Bool.and_eq_true, decide_eq_true_eq] at selected
  rw [selected.2, expected]

namespace AttemptUpdate

def interrupted : AttemptUpdate :=
  toUnknown (fun attempt => attempt.status = .intentCommitted)
    (by intro attempt selected
        rw [decide_eq_true_eq.mp selected]
        rfl)
    "daemon restarted with an unresolved feed intent"

def unconfirmed (id : Uuid) (error : String) : AttemptUpdate :=
  toUnknown (isAttempt id .intentCommitted) (unresolved_of_isAttempt rfl) error

def fed (id : Uuid) (expected : FeedAttemptStatus)
    (unresolved : expected.isUnresolved = true) (now : Int) : AttemptUpdate :=
  resolve (isAttempt id expected) (unresolved_of_isAttempt unresolved) .confirmed now

def notFed (id : Uuid) (now : Int) : AttemptUpdate :=
  resolve (isAttempt id .unknown) (unresolved_of_isAttempt rfl) .reconciledNotFed now

def notDispatched (id : Uuid) (now : Int) : AttemptUpdate :=
  resolve (fun attempt => attempt.id = id && attempt.status.isUnresolved)
    (fun _ selected => (Bool.and_eq_true_iff.mp selected).2) .reconciledNotFed now

end AttemptUpdate

def interruptedMessage : String :=
  "An automatic feed was interrupted and requires operator reconciliation."

def unconfirmedMessage : String :=
  "An automatic feed could not be confirmed. Operator reconciliation is required."

def markInterruptedFeedIntentsUnknown (db : Db) : Except LedgerError (Nat × Db) :=
  let updated := updateAttempts .interrupted db
  if 0 < updated.2 then
    return (updated.2, (appendEventInTransaction "processing_error"
      [("message", .string interruptedMessage)] updated.1).1)
  else return (updated.2, updated.1)

def beginFeedAttempt (thresholdSats : Nat) (drawn : Uuid) (now : Int) (db : Db) :
    Except LedgerError (Option Uuid × Db) := do
  ensure (thresholdSats ≠ 0) .zeroThreshold
  let thresholdI64 ← toI64 thresholdSats "threshold_sats"
  match findUnresolved db with
  | some attempt => throw (.unresolvedAttempt attempt.id attempt.status.asStr)
  | none =>
      if now < db.feederCooldown then return (none, db)
      else do
        let credit ← feedCreditInTransaction db
        if credit < thresholdSats then return (none, db)
        else do
          let inserted ← insertRow "feed_attempts" (fun row => 0 < row.thresholdSats)
            db.feedAttempts
            { id := drawn, status := .intentCommitted, thresholdSats := thresholdI64 }
          return (some drawn, { db with feedAttempts := inserted.1 })

def debitEntry (id : Uuid) (thresholdSats : Int) : LedgerEntry where
  entryType := "FEED_DEBIT"
  sourceKey := Text.joined ':' "feed" id.toText
  deltaSats := -thresholdSats
  feedAttemptId := some id.toText

def resolveAsFed (id : Uuid) (expected : FeedAttemptStatus)
    (unresolved : expected.isUnresolved = true) (now : Int) (db : Db) :
    Except LedgerError (Unit × Db) := do
  let row ← require (db.feedAttempts.rows.find? (isAttempt id expected))
    (.attemptNotIn id expected.asStr)
  let thresholdSats ← toU64 row.thresholdSats "threshold_sats"
  let currentCredit ← feedCreditInTransaction db
  ensure (thresholdSats ≤ currentCredit) (.uncoveredAttempt id thresholdSats currentCredit)
  let updated := updateAttempts (.fed id expected unresolved now) db
  ensure (updated.2 = 1) (.attemptChangedWhileResolved id)
  let inserted ← insertRow "ledger_entries" (fun _ => True) updated.1.ledgerEntries
    (debitEntry id row.thresholdSats)
  let debited := { updated.1 with ledgerEntries := inserted.1 }
  let feedCreditSats ← feedCreditInTransaction debited
  return ((), (appendEventInTransaction "feeder_confirmed"
    [("feed_attempt_id", .string id.toText), ("threshold_sats", .number thresholdSats),
      ("feed_credit_sats", .number feedCreditSats)] debited).1)

def confirmFeedAttempt (id : Uuid) : Int → Db → Except LedgerError (Unit × Db) :=
  resolveAsFed id .intentCommitted rfl

def reconcileUnknownAsFed (id : Uuid) : Int → Db → Except LedgerError (Unit × Db) :=
  resolveAsFed id .unknown rfl

def truncateError (error : String) : String :=
  String.ofList (error.toList.take 1000)

def markFeedUnknown (id : Uuid) (error : String) (db : Db) :
    Except LedgerError (Unit × Db) := do
  let updated := updateAttempts (.unconfirmed id (truncateError error)) db
  ensure (updated.2 = 1) (.attemptNotIn id "intent_committed")
  return ((), (appendEventInTransaction "processing_error"
    [("feed_attempt_id", .string id.toText), ("message", .string unconfirmedMessage)]
    updated.1).1)

def reconcileUnknownAsNotFed (id : Uuid) (now : Int) (db : Db) :
    Except LedgerError (Unit × Db) := do
  let updated := updateAttempts (.notFed id now) db
  ensure (updated.2 = 1) (.attemptNotIn id "unknown")
  let feedCreditSats ← feedCreditInTransaction updated.1
  return ((), (appendEventInTransaction "feed_reconciled_not_fed"
    [("feed_attempt_id", .string id.toText), ("feed_credit_sats", .number feedCreditSats)]
    updated.1).1)

/-- The attempt is resolved without a debit, and no further one begins before
the cooldown has passed. -/
def resolveFeedNotDispatched (id : Uuid) (retryAfterSeconds : Nat) (now : Int) (db : Db) :
    Except LedgerError (Unit × Db) := do
  ensure (1 ≤ retryAfterSeconds ∧ retryAfterSeconds ≤ 86400) .invalidCooldown
  let updated := updateAttempts (.notDispatched id now) db
  ensure (updated.2 = 1) .attemptChanged
  let cooling := { updated.1 with
    feederCooldown := max updated.1.feederCooldown (now + retryAfterSeconds) }
  return ((), (appendEventInTransaction "feeder_not_dispatched"
    [("feed_attempt_id", .string id.toText),
      ("retry_after_seconds", .number retryAfterSeconds)] cooling).1)

end LightningGoats
