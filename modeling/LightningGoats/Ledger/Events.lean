import LightningGoats.Foundation.CheckedSum
import LightningGoats.Ledger.Validation

/-! # Durable events and balance snapshots -/

namespace LightningGoats

open Outcome Relational

/-- `SUM` over database integers, which fails when a running total overflows. -/
def sqlSum (values : List Int) : Except LedgerError Int :=
  require (CheckedSum.sum (-maxI64 - 1) maxI64 values) (.sqlite .integerOverflow)

def feedCreditInTransaction (db : Db) : Except LedgerError Nat := do
  let credit ← sqlSum (db.ledgerEntries.rows.map LedgerEntry.deltaSats)
  ensure (0 ≤ credit) (.negativeCredit credit)
  toU64 credit "feed credit"

theorem noClash_fresh {Row : Type} (table : Table (@NoClash Row)) (row : Row) :
    table.Fresh row :=
  fun _ _ clashes => clashes

def appendEventInTransaction (eventType : String) (payload : List (String × JsonValue))
    (db : Db) : Db × Nat :=
  ({ db with eventLog := db.eventLog.insert ⟨eventType, payload⟩ (noClash_fresh _ _) },
    db.eventLog.nextRowid)

def latestEventSeq (db : Db) : Nat :=
  (db.eventLog.entries.map Prod.fst).foldl max 0

structure DurableEvent where
  seq : Nat
  event : Event
  deriving DecidableEq, Repr

def eventsAfter (afterSeq limit : Nat) (db : Db) : Except LedgerError (List DurableEvent) := do
  let afterSeq ← toI64 afterSeq "event sequence"
  let later := db.eventLog.entries.filter fun entry => afterSeq < entry.1
  return (later.take (max 1 (min limit 1000))).map fun entry => ⟨entry.1, entry.2⟩

/-- The events that callers append on their own. They are informational and
announce no balance. -/
inductive InformationalEvent
  | interfaceInfo
  | weatherStatus (message data : JsonValue)
  deriving DecidableEq, Repr

namespace InformationalEvent

def eventType : InformationalEvent → String
  | interfaceInfo => "interface_info"
  | weatherStatus _ _ => "weather_status"

def payload : InformationalEvent → List (String × JsonValue)
  | interfaceInfo => []
  | weatherStatus message data => [("message", message), ("data", data)]

end InformationalEvent

def appendEvent (event : InformationalEvent) (db : Db) : Except LedgerError (Nat × Db) :=
  let appended := appendEventInTransaction event.eventType event.payload db
  return (appended.2, appended.1)

inductive StoredFeedAttemptStatus
  | intentCommitted
  | unknown
  deriving DecidableEq, Repr

structure StoredFeedAttempt where
  id : Uuid
  status : StoredFeedAttemptStatus
  thresholdSats : Nat
  deriving DecidableEq, Repr

def readUnresolved (attempt : FeedAttempt) : Except LedgerError StoredFeedAttempt := do
  let status ← match attempt.status with
    | .intentCommitted => pure StoredFeedAttemptStatus.intentCommitted
    | .unknown => pure .unknown
    | other => throw (.unexpectedUnresolvedStatus other.asStr)
  let thresholdSats ← toU64 attempt.thresholdSats "threshold_sats"
  return ⟨attempt.id, status, thresholdSats⟩

/-- The row that `status IN ('intent_committed', 'unknown') LIMIT 1` selects. -/
def findUnresolved (db : Db) : Option FeedAttempt :=
  db.feedAttempts.rows.find? fun attempt => attempt.status.isUnresolved

def unresolvedFeedAttempt (db : Db) : Except LedgerError (Option StoredFeedAttempt) :=
  match findUnresolved db with
  | none => return none
  | some attempt => do
      let stored ← readUnresolved attempt
      return some stored

structure OverlaySnapshotState where
  seq : Nat
  feedCreditSats : Nat
  unresolvedFeedAttempt : Option StoredFeedAttempt
  deriving DecidableEq, Repr

def overlaySnapshotState (db : Db) : Except LedgerError OverlaySnapshotState := do
  let credit ← sqlSum (db.ledgerEntries.rows.map LedgerEntry.deltaSats)
  ensure (0 ≤ credit) (.negativeCredit credit)
  let unresolved ← unresolvedFeedAttempt db
  let feedCreditSats ← toU64 credit "feed credit"
  return ⟨latestEventSeq db, feedCreditSats, unresolved⟩

/-- The snapshot message for the overlay, with the sequence number it is taken at. -/
def overlaySnapshotMessage (thresholdSats : Nat) (db : Db) :
    Except LedgerError (Nat × List (String × JsonValue)) := do
  ensure (thresholdSats ≠ 0) .zeroThreshold
  let snapshot ← overlaySnapshotState db
  return (snapshot.seq, [
    ("type", .string "snapshot"),
    ("seq", .number snapshot.seq),
    ("feed_credit_sats", .number snapshot.feedCreditSats),
    ("threshold_sats", .number thresholdSats),
    ("feeds_due", .number (snapshot.feedCreditSats / thresholdSats : Nat)),
    ("remainder_sats", .number (snapshot.feedCreditSats % thresholdSats : Nat)),
    ("unresolved_feed_attempt", match snapshot.unresolvedFeedAttempt with
      | some attempt => .string attempt.id.toText
      | none => .null)])

/-! ## What the reads return -/

def creditTotal (db : Db) : Int :=
  (db.ledgerEntries.rows.map LedgerEntry.deltaSats).sum

theorem sqlSum_eq_ok {values : List Int} {result : Int} :
    sqlSum values = .ok result ↔ CheckedSum.sum (-maxI64 - 1) maxI64 values = some result := by
  simp [sqlSum]

theorem sqlSum_total {values : List Int} {result : Int} (summed : sqlSum values = .ok result) :
    result = values.sum :=
  CheckedSum.sum_eq_some (sqlSum_eq_ok.mp summed)

theorem feedCredit_eq_ok {db : Db} {credit : Nat} :
    feedCreditInTransaction db = .ok credit ↔
      sqlSum (db.ledgerEntries.rows.map LedgerEntry.deltaSats) = .ok (credit : Int) := by
  simp only [feedCreditInTransaction, bind_eq_ok, ensure_eq_ok, toU64_eq_ok]
  constructor
  · rintro ⟨_, summed, _, _, rfl⟩
    exact summed
  · intro summed
    exact ⟨_, summed, .unit, Int.natCast_nonneg _, rfl⟩

theorem feedCredit_total {db : Db} {credit : Nat}
    (read : feedCreditInTransaction db = .ok credit) : (credit : Int) = creditTotal db :=
  sqlSum_total (feedCredit_eq_ok.mp read)

theorem feedCredit_congr {left right : Db} (same : left.ledgerEntries = right.ledgerEntries) :
    feedCreditInTransaction left = feedCreditInTransaction right := by
  rw [feedCreditInTransaction, feedCreditInTransaction, same]

@[simp] theorem appendEvent_db (eventType : String) (payload : List (String × JsonValue))
    (db : Db) :
    (appendEventInTransaction eventType payload db).1 =
      { db with eventLog := db.eventLog.insert ⟨eventType, payload⟩ (noClash_fresh _ _) } :=
  rfl

@[simp] theorem appendEvent_seq (eventType : String) (payload : List (String × JsonValue))
    (db : Db) :
    (appendEventInTransaction eventType payload db).2 = db.eventLog.nextRowid := rfl

theorem InformationalEvent.announces_nothing (event : InformationalEvent) :
    Event.feedCreditSats? ⟨event.eventType, event.payload⟩ = none := by
  cases event with
  | interfaceInfo => rfl
  | weatherStatus message data => rfl

theorem InformationalEvent.carries_nothing (event : InformationalEvent) :
    Event.carriesBalance ⟨event.eventType, event.payload⟩ = false := by
  cases event with
  | interfaceInfo => rfl
  | weatherStatus message data => rfl

end LightningGoats
