import Mathlib.Algebra.Group.Int.Defs
import LightningGoats.Foundation.Codec
import LightningGoats.Foundation.Outcome
import LightningGoats.Foundation.Text
import LightningGoats.Domain.Uuid

/-! # Owner receipts

What the gateway asks the owner of the feeder after it has sent a request. The
current ledger Item locates a receipt, but only a committed snapshot of the
ledger in the persistence service certifies a completion.
-/

namespace LightningGoats

open Outcome

/-! ## Times -/

/-- A point in time. The nanoseconds of a leap second are a second more. -/
structure DateTime where
  timestamp : Int
  nanos : Nat
  deriving DecidableEq, Repr

namespace DateTime

def timestampMillis (time : DateTime) : Int :=
  time.timestamp * 1000 + (time.nanos / 1000000 : Nat)

def before (left right : DateTime) : Prop :=
  left.timestamp < right.timestamp ∨
    left.timestamp = right.timestamp ∧ left.nanos < right.nanos

instance (left right : DateTime) : Decidable (left.before right) :=
  inferInstanceAs (Decidable (left.timestamp < right.timestamp ∨
    left.timestamp = right.timestamp ∧ left.nanos < right.nanos))

/-- Add whole seconds. Leaving a leap second forwards counts it as the second before it, and
backwards as the one after it. -/
def addSeconds (time : DateTime) (seconds : Int) : DateTime :=
  if time.nanos < 1000000000 then ⟨time.timestamp + seconds, time.nanos⟩
  else if 0 < seconds then ⟨time.timestamp + seconds, time.nanos - 1000000000⟩
  else if seconds < 0 then ⟨time.timestamp + 1 + seconds, time.nanos - 1000000000⟩
  else time

end DateTime

/-! ## Documents -/

inductive OwnerOutcome
  | absent
  | pending
  | complete
  | rejected
  | ambiguous
  deriving DecidableEq, Repr

structure OwnerEntryV2 where
  version : String
  requestId : String
  status : String
  reason : String
  at' : String
  updatedAt : Option String
  deriving DecidableEq, Repr

structure OwnerLedgerV2 where
  version : String
  entries : List OwnerEntryV2
  deriving DecidableEq, Repr

structure OwnerHistoryRowV2 where
  time : Int
  state : String
  deriving DecidableEq, Repr

structure OwnerHistoryV2 where
  name : String
  datapoints : String
  data : List OwnerHistoryRowV2
  deriving DecidableEq, Repr

/-- What the client uses of the JSON and of the time parser. -/
class OwnerText where
  ledger : String → Option OwnerLedgerV2
  history : ByteArray → Option OwnerHistoryV2
  entry : String → Option OwnerEntryV2
  parseRfc3339 : String → Option DateTime

inductive OwnerError
  | itemRequest
  | itemHttp (status : Nat)
  | bodyTooLarge
  | bodyRead
  | itemNotUtf8
  | timestamp
  | timestampRange
  | ledgerBytes
  | ledgerJson
  | ledgerVersion
  | ledgerIdentity
  | ledgerStatus
  | resultJson
  | resultEnvelope
  | resultStatus
  | missingCompletion
  | historyRequest
  | historyHttp (status : Nat)
  | historyJson
  | historyMismatch
  | historyOrder
  | admissionConflict
  | completionConflict
  | regressed
  | evicted
  | paginationLimit
  deriving DecidableEq, Repr

def OwnerError.message : OwnerError → String
  | itemRequest => "failed requesting OpenHAB item state"
  | itemHttp status => s!"OpenHAB item state returned HTTP {status}"
  | bodyTooLarge => "provider response exceeds size limit"
  | bodyRead => "error reading a body from connection"
  | itemNotUtf8 => "OpenHAB state must be UTF-8"
  | timestamp => "invalid owner v2 timestamp"
  | timestampRange => "owner v2 timestamp is outside the supported range"
  | ledgerBytes => "owner ledger exceeds byte limit"
  | ledgerJson => "invalid owner v2 ledger"
  | ledgerVersion => "unsupported owner ledger version or capacity"
  | ledgerIdentity => "invalid or duplicate owner ledger identity"
  | ledgerStatus => "invalid owner ledger status/time"
  | resultJson => "invalid owner v2 result"
  | resultEnvelope => "invalid owner v2 result envelope"
  | resultStatus => "contradictory or unknown owner v2 status/reason"
  | missingCompletion => "missing completion time"
  | historyRequest => "failed requesting owner persistence"
  | historyHttp status => s!"owner persistence returned HTTP {status}"
  | historyJson => "invalid owner persistence response"
  | historyMismatch => "owner persistence identity/count mismatch"
  | historyOrder => "owner persistence ordering/time mismatch"
  | admissionConflict => "owner persistence admission conflict"
  | completionConflict => "owner persistence completion conflict"
  | regressed => "owner persistence regressed after completion"
  | evicted => "owner persistence evicted completed receipt"
  | paginationLimit => "owner persistence pagination limit reached"

/-! ## The server -/

/-- An answer to a request. The body is missing when the connection broke. -/
inductive OwnerResponse
  | failed
  | answered (status : Nat) (body : Option ByteArray)

structure HistoryQuery where
  item : String
  startTime : DateTime
  endTime : DateTime
  pageLength : Nat
  page : Nat
  deriving DecidableEq, Repr

structure OwnerServer where
  ledgerItem : String
  ledgerState : OwnerResponse
  ackState : OwnerResponse
  history : HistoryQuery → OwnerResponse

inductive Reading
  | ledger (entry : Nat) (updated : Bool)
  | completion
  | row (page row : Nat)
  | snapshot (page row entry : Nat) (updated : Bool)
  | result

def boundedBody (body : Option ByteArray) (limit : Nat) : Except OwnerError ByteArray := do
  let bytes ← require body .bodyRead
  ensure (bytes.size ≤ limit) .bodyTooLarge
  return bytes

def isSuccess (status : Nat) : Prop :=
  200 ≤ status ∧ status < 300

instance : DecidablePred isSuccess :=
  fun status => inferInstanceAs (Decidable (200 ≤ status ∧ status < 300))

def itemStateBounded (response : OwnerResponse) (limit : Nat) : Except OwnerError String :=
  match response with
  | .failed => throw .itemRequest
  | .answered status body => do
      ensure (isSuccess status) (.itemHttp status)
      let bytes ← boundedBody body limit
      require (String.fromUTF8? bytes) .itemNotUtf8

/-! ## Reading the documents -/

variable [OwnerText]

def parseV2Time (now : DateTime) (raw : String) : Except OwnerError DateTime := do
  let parsed ← require (OwnerText.parseRfc3339 raw) .timestamp
  ensure (946684800 ≤ parsed.timestamp ∧ ¬ (now.addSeconds 30).before parsed) .timestampRange
  return parsed

def isAsciiAlphanumeric (byte : UInt8) : Bool :=
  (Char.ofUInt8 byte).isAlphanum

def isOwnerId (requestId : String) : Bool :=
  let bytes := requestId.toUTF8.toList
  8 ≤ bytes.length && bytes.length ≤ 128 && bytes.head?.any isAsciiAlphanumeric &&
    bytes.all fun byte => isAsciiAlphanumeric byte || "._:-".toUTF8.toList.contains byte

/-- One entry of a ledger, after those whose identities were `seen`. -/
def checkEntry (now : Bool → DateTime) (seen : List String) (entry : OwnerEntryV2) :
    Except OwnerError Unit := do
  ensure (entry.version = "feeder-request-v2" ∧ isOwnerId entry.requestId ∧
    entry.requestId ∉ seen) .ledgerIdentity
  let admitted ← parseV2Time (now false) entry.at'
  match entry.status, entry.reason, entry.updatedAt with
  | "accepted", "accepted", none => return ()
  | "complete", "complete", some updated => do
      let completed ← parseV2Time (now true) updated
      ensure (¬ completed.before admitted) .ledgerStatus
  | _, _, _ => throw .ledgerStatus

def checkEntries (now : Nat → Bool → DateTime) :
    List String → List OwnerEntryV2 → Except OwnerError Unit
  | _, [] => return ()
  | seen, entry :: entries => do
      checkEntry (now seen.length) seen entry
      checkEntries now (entry.requestId :: seen) entries

def parseLedgerV2 (now : Nat → Bool → DateTime) (raw : String) :
    Except OwnerError OwnerLedgerV2 := do
  ensure (raw.utf8ByteSize ≤ 8192) .ledgerBytes
  let ledger ← require (OwnerText.ledger raw) .ledgerJson
  ensure (ledger.version = "feeder-request-ledger/v2" ∧ ledger.entries.length ≤ 32)
    .ledgerVersion
  checkEntries now [] ledger.entries
  return ledger

def OwnerLedgerV2.receipt (ledger : OwnerLedgerV2) (requestId : String) :
    Option OwnerEntryV2 :=
  ledger.entries.find? fun entry => entry.requestId = requestId

def deniedReasons : List String :=
  ["request_invalid", "request_version", "request_stale", "ledger_restore_missing",
    "ledger_restore_conflict", "ledger_invalid", "restart_uncertain", "ledger_full",
    "clock_invalid", "cooldown", "busy"]

def failedReasons : List String :=
  ["ledger_persist_uncertain", "completion_persist_uncertain", "execution_error"]

/-- What a notification says. A notification alone never certifies durable completion. -/
def notifiedOutcome (status reason : String) : Except OwnerError OwnerOutcome :=
  if status = "complete" ∧ reason = "complete" then .ok .ambiguous
  else if status = "accepted" ∧ reason = "accepted" ∨
      status = "running" ∧ reason = "pulse_started" then .ok .pending
  else if status = "denied" ∧ reason ∈ deniedReasons then .ok .rejected
  else if status = "failed" ∧ reason ∈ failedReasons then .ok .ambiguous
  else .error .resultStatus

def parseResultV2 (now : DateTime) (raw : String) (expected : Uuid) :
    Except OwnerError OwnerOutcome :=
  if Text.trim raw ∈ ["", "NULL", "UNDEF", "-"] then .ok .absent
  else do
    let result ← require (OwnerText.entry raw) .resultJson
    ensure (result.version = "feeder-request-v2" ∧ result.updatedAt = none) .resultEnvelope
    let _ ← parseV2Time now result.at'
    if result.requestId = expected.toText then notifiedOutcome result.status result.reason
    else .ok .absent

/-! ## The history of the ledger -/

structure Evidence where
  seenComplete : Bool
  previousTime : Int
  deriving DecidableEq, Repr

def Evidence.initial : Evidence :=
  ⟨false, -(2 ^ 63)⟩

def historyPage (server : OwnerServer) (completedAt : DateTime) (page : Nat) :
    Except OwnerError (List OwnerHistoryRowV2) :=
  match server.history ⟨server.ledgerItem, completedAt.addSeconds (-10),
    completedAt.addSeconds 10, 8, page⟩ with
  | .failed => throw .historyRequest
  | .answered status body => do
      ensure (isSuccess status) (.historyHttp status)
      let bytes ← boundedBody body (256 * 1024)
      let history ← require (OwnerText.history bytes) .historyJson
      ensure (history.name = server.ledgerItem ∧ history.data.length ≤ 8 ∧
        (Text.parseU64 history.datapoints).map UInt64.toNat = some history.data.length)
        .historyMismatch
      return history.data

/-- Compare the receipt of a snapshot with the entry of the current ledger, and return
whether a completion has now been seen. -/
def checkReceipt (entry : OwnerEntryV2) (completedAt : DateTime) (rowTime : Int)
    (seenComplete : Bool) : Option OwnerEntryV2 → Except OwnerError Bool
  | some receipt => do
      ensure (receipt.at' = entry.at') .admissionConflict
      if receipt.status = "complete" then do
        ensure (receipt = entry ∧ completedAt.timestampMillis ≤ rowTime) .completionConflict
        return true
      else do
        ensure (seenComplete = false) .regressed
        return seenComplete
  | none => do
      ensure (seenComplete = false) .evicted
      return seenComplete

def checkRow (now : DateTime) (snapshotNow : Nat → Bool → DateTime) (entry : OwnerEntryV2)
    (completedAt : DateTime) (evidence : Evidence) (row : OwnerHistoryRowV2) :
    Except OwnerError Evidence := do
  ensure (evidence.previousTime ≤ row.time ∧
    (completedAt.addSeconds (-10)).timestampMillis ≤ row.time ∧
    row.time ≤ (completedAt.addSeconds 10).timestampMillis ∧
    row.time ≤ now.timestampMillis + 30000) .historyOrder
  let snapshot ← parseLedgerV2 snapshotNow row.state
  let seenComplete ← checkReceipt entry completedAt row.time evidence.seenComplete
    (snapshot.receipt entry.requestId)
  return ⟨seenComplete, row.time⟩

def checkRows (clock : Reading → DateTime) (entry : OwnerEntryV2) (completedAt : DateTime)
    (page : Nat) : Nat → Evidence → List OwnerHistoryRowV2 → Except OwnerError Evidence
  | _, evidence, [] => return evidence
  | index, evidence, row :: rows => do
      let next ← checkRow (clock (.row page index))
        (fun place updated => clock (.snapshot page index place updated)) entry completedAt
        evidence row
      checkRows clock entry completedAt page (index + 1) next rows

/-- Read pages until one is not full, at most as many as `remaining`. -/
def scanPages (server : OwnerServer) (clock : Reading → DateTime) (entry : OwnerEntryV2)
    (completedAt : DateTime) : Nat → Nat → Evidence → Except OwnerError OwnerOutcome
  | 0, _, _ => throw .paginationLimit
  | remaining + 1, page, evidence => do
      let rows ← historyPage server completedAt page
      let next ← checkRows clock entry completedAt page 0 evidence rows
      if rows.length < 8 then
        return if next.seenComplete then .complete else .ambiguous
      else scanPages server clock entry completedAt remaining (page + 1) next

def entryOutcome (server : OwnerServer) (clock : Reading → DateTime) (entry : OwnerEntryV2) :
    Except OwnerError OwnerOutcome :=
  if entry.status = "accepted" then .ok .pending
  else do
    let updated ← require entry.updatedAt .missingCompletion
    let completedAt ← parseV2Time (clock .completion) updated
    scanPages server clock entry completedAt 8 0 Evidence.initial

/-- Recovery is read-only. The current Item locates a receipt, but only a matching committed
snapshot can certify an immutable completion. -/
def feederResultV2 (server : OwnerServer) (clock : Reading → DateTime) (requestId : Uuid) :
    Except OwnerError OwnerOutcome := do
  let raw ← itemStateBounded server.ledgerState 8192
  let ledger ← parseLedgerV2 (fun place updated => clock (.ledger place updated)) raw
  match ledger.receipt requestId.toText with
  | some entry => entryOutcome server clock entry
  | none => do
      let notified ← itemStateBounded server.ackState 4096
      parseResultV2 (clock .result) notified requestId

end LightningGoats
