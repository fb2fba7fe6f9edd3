import LightningGoats.Ledger.Feed
import LightningGoats.Ledger.Inbox

/-! # The message outbox

Signed messages wait in the outbox until a relay has accepted them. The cursor
is the sequence number of the newest event that a message was signed for.
-/

namespace LightningGoats

open Outcome Relational

inductive OutboxStatus
  | pending
  | published
  | failed
  deriving DecidableEq, Repr

structure OutboxRow where
  eventId : String
  signedEventJson : String
  status : OutboxStatus
  attempts : Nat
  lastError : Option String
  createdAt : Int
  sourceEventSeq : Option Int
  deriving DecidableEq, Repr

/-- The primary key, and the partial index `message_outbox_source_event_seq_unique`. -/
abbrev OutboxRow.Clash : OutboxRow → OutboxRow → Prop :=
  EitherClash (SameKey fun row => some row.eventId) (SameKey OutboxRow.sourceEventSeq)

structure Outbox where
  messages : Table OutboxRow.Clash
  messageCursor : Int

inductive OutboxError
  | ledger (error : LedgerError)
  | cursorBackward (current eventSeq : Int)
  | notAhead (sourceEventSeq : Nat) (current : Int)
  | nullSequence
  | notPending (eventId : String)
  deriving DecidableEq, Repr

def OutboxError.message : OutboxError → String
  | ledger error => error.message
  | cursorBackward current eventSeq =>
      "refusing to move message cursor backward from " ++ toString current ++ " to " ++
        toString eventSeq
  | notAhead sourceEventSeq current =>
      "source event " ++ toString sourceEventSeq ++ " is not ahead of message cursor " ++
        toString current
  | nullSequence => "error occurred while decoding column \"source_event_seq\""
  | notPending eventId => "outbox event " ++ eventId ++ " is not pending publication"

/-! ## The cursor -/

def messageCursor (outbox : Outbox) : Except OutboxError Nat :=
  (toU64 outbox.messageCursor "message cursor").mapError .ledger

def advanceMessageCursor (eventSeq : Nat) (outbox : Outbox) : Except OutboxError Outbox := do
  let eventSeq ← (toI64 eventSeq "event sequence").mapError .ledger
  ensure (outbox.messageCursor ≤ eventSeq) (.cursorBackward outbox.messageCursor eventSeq)
  if outbox.messageCursor < eventSeq then return { outbox with messageCursor := eventSeq }
  else return outbox

/-! ## Signed messages -/

def enqueueSignedMessage (sourceEventSeq : Nat) (eventId signedEventJson : String) (now : Int)
    (outbox : Outbox) : Except OutboxError Outbox := do
  let sourceEventSeqI64 ← (toI64 sourceEventSeq "event sequence").mapError .ledger
  ensure (outbox.messageCursor < sourceEventSeqI64)
    (.notAhead sourceEventSeq outbox.messageCursor)
  let inserted ← (insertRow "message_outbox" (fun _ => True) outbox.messages {
    eventId := eventId
    signedEventJson := signedEventJson
    status := .pending
    attempts := 0
    lastError := none
    createdAt := now
    sourceEventSeq := some sourceEventSeqI64 }).mapError .ledger
  return { messages := inserted.1, messageCursor := sourceEventSeqI64 }

structure OutboxEntry where
  eventId : String
  signedEventJson : String
  sourceEventSeq : Nat
  attempts : Nat
  deriving DecidableEq, Repr

/-- `status IN ('pending', 'failed')` -/
def OutboxRow.isWaiting (row : OutboxRow) : Bool :=
  row.status = .pending || row.status = .failed

def OutboxRow.precedes (left right : OutboxRow) : Bool :=
  match left.sourceEventSeq, right.sourceEventSeq with
  | none, none => left.createdAt < right.createdAt
  | none, some _ => true
  | some _, none => false
  | some leftSeq, some rightSeq =>
      leftSeq < rightSeq || leftSeq = rightSeq && left.createdAt < right.createdAt

def OutboxRow.entry (row : OutboxRow) : Except OutboxError OutboxEntry := do
  let sourceEventSeq ← require row.sourceEventSeq .nullSequence
  let sourceEventSeq ← (toU64 sourceEventSeq "outbox source event sequence").mapError .ledger
  return ⟨row.eventId, row.signedEventJson, sourceEventSeq, row.attempts⟩

def nextOutboxEntry (outbox : Outbox) : Except OutboxError (Option OutboxEntry) :=
  match earliest OutboxRow.precedes (outbox.messages.rows.filter OutboxRow.isWaiting) with
  | none => return none
  | some row => do
      let entry ← row.entry
      return some entry

/-! ## Publication -/

/-- The row `WHERE event_id = ? AND status IN ('pending', 'failed')`. -/
def OutboxRow.isPublishable (eventId : String) (row : OutboxRow) : Bool :=
  row.eventId = eventId && row.isWaiting

def OutboxRow.mark (eventId : String) (status : OutboxStatus) (lastError : Option String)
    (row : OutboxRow) : OutboxRow :=
  if row.isPublishable eventId then
    { row with status := status, attempts := row.attempts + 1, lastError := lastError }
  else row

@[simp] theorem OutboxRow.mark_eventId (eventId : String) (status : OutboxStatus)
    (lastError : Option String) (row : OutboxRow) :
    (row.mark eventId status lastError).eventId = row.eventId := by
  unfold mark
  split
  · rfl
  · rfl

@[simp] theorem OutboxRow.mark_sourceEventSeq (eventId : String) (status : OutboxStatus)
    (lastError : Option String) (row : OutboxRow) :
    (row.mark eventId status lastError).sourceEventSeq = row.sourceEventSeq := by
  unfold mark
  split
  · rfl
  · rfl

@[simp] theorem OutboxRow.mark_signedEventJson (eventId : String) (status : OutboxStatus)
    (lastError : Option String) (row : OutboxRow) :
    (row.mark eventId status lastError).signedEventJson = row.signedEventJson := by
  unfold mark
  split
  · rfl
  · rfl

theorem OutboxRow.clash_of_mark (eventId : String) (status : OutboxStatus)
    (lastError : Option String) (left right : OutboxRow)
    (clashes : OutboxRow.Clash (left.mark eventId status lastError)
      (right.mark eventId status lastError)) : OutboxRow.Clash left right := by
  cases clashes with
  | inl sameIds => exact .inl (sameIds.of_preserved (by simp) (by simp))
  | inr sameSources => exact .inr (sameSources.of_preserved (by simp) (by simp))

/-- One statement outside a transaction. If it affects no row it has changed nothing. -/
def markOutbox (eventId : String) (status : OutboxStatus) (lastError : Option String)
    (outbox : Outbox) : Except OutboxError Outbox :=
  let affected := outbox.messages.rows.filter (OutboxRow.isPublishable eventId)
  let marked := outbox.messages.update (OutboxRow.mark eventId status lastError)
    (OutboxRow.clash_of_mark eventId status lastError)
  if affected.length = 1 then .ok { outbox with messages := marked }
  else .error (.notPending eventId)

def markOutboxPublished (eventId : String) : Outbox → Except OutboxError Outbox :=
  markOutbox eventId .published none

def markOutboxFailed (eventId error : String) : Outbox → Except OutboxError Outbox :=
  markOutbox eventId .failed (some (truncateError error))

/-! ## What the operations do -/

section Operations

variable {before after : Outbox}

theorem advanceMessageCursor_cases {eventSeq : Nat}
    (advanced : advanceMessageCursor eventSeq before = .ok after) :
    (before.messageCursor = eventSeq ∧ after = before) ∨
      (before.messageCursor < eventSeq ∧
        after = { before with messageCursor := eventSeq }) := by
  simp only [advanceMessageCursor, bind_eq_ok, mapError_eq_ok, ensure_eq_ok] at advanced
  rcases advanced with ⟨seq, isSeq, _, ordered, advanced⟩
  cases (toI64_eq_ok.mp isSeq).2
  split at advanced
  · rename_i ahead
    cases advanced
    exact .inr ⟨ahead, rfl⟩
  · cases advanced
    exact .inl ⟨by omega, rfl⟩

theorem enqueueSignedMessage_ok {sourceEventSeq : Nat} {eventId signedEventJson : String}
    {now : Int}
    (enqueued : enqueueSignedMessage sourceEventSeq eventId signedEventJson now before =
      .ok after) :
    before.messageCursor < sourceEventSeq ∧ ∃ fresh, after = {
      messages := before.messages.insert ⟨eventId, signedEventJson, .pending, 0, none, now,
        some (sourceEventSeq : Int)⟩ fresh
      messageCursor := sourceEventSeq } := by
  simp only [enqueueSignedMessage, bind_eq_ok, mapError_eq_ok, ensure_eq_ok,
    pure_eq_ok] at enqueued
  rcases enqueued with ⟨seq, isSeq, _, ahead, ⟨messages, rowid⟩, inserted, rfl⟩
  cases (toI64_eq_ok.mp isSeq).2
  rcases insertRow_eq_ok.mp inserted with ⟨_, _, fresh, rfl⟩
  exact ⟨ahead, fresh, rfl⟩

theorem markOutbox_ok {eventId : String} {status : OutboxStatus} {lastError : Option String}
    (marked : markOutbox eventId status lastError before = .ok after) :
    after.messageCursor = before.messageCursor ∧
      after.messages.rows = before.messages.rows.map
        (OutboxRow.mark eventId status lastError) := by
  unfold markOutbox at marked
  dsimp only at marked
  split at marked
  · cases marked
    exact ⟨rfl, Table.rows_update _ _ (OutboxRow.clash_of_mark eventId status lastError)⟩
  · cases marked

end Operations

end LightningGoats
