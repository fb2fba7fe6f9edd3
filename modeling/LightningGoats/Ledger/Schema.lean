import LightningGoats.Foundation.Table
import LightningGoats.Foundation.Text
import LightningGoats.Domain.Credit
import LightningGoats.Domain.Uuid

/-! # The ledger database

The tables that payments, XMR receipts, feed attempts, durable events and the
Strike inbox are kept in, with the constraints the migrations declare. Columns
that only record wall-clock time and that nothing reads are left out.
-/

namespace LightningGoats

open Relational

/-! ## Errors -/

/-- What the database itself refuses. -/
inductive SqliteFailure
  | unique (table : String)
  | check (table : String)
  | foreignKey (table : String)
  | trigger (message : String)
  | integerOverflow
  | rowNotFound
  deriving DecidableEq, Repr

inductive LedgerError
  | sqlite (failure : SqliteFailure)
  | credit (error : CreditError)
  | sourceLength
  | sourceCharacters
  | externalIdLength (field : String) (maxLen : Nat)
  | externalIdControl (field : String)
  | invalidUser (field : String)
  | paymentHash
  | zeroAmount
  | notSatAligned (amountMsat : Nat)
  | settledAtNegative
  | contextNotJson
  | contextNotObject
  | sqliteRange (field : String)
  | unexpectedlyNegative (field : String)
  | conflictingSettlement (source sourceId : String)
  | hashCollision (hash existingSource existingSourceId source sourceId : String)
  | negativeCredit (balance : Int)
  | zeroThreshold
  | unresolvedAttempt (id : Uuid) (status : String)
  | attemptNotIn (id : Uuid) (expected : String)
  | uncoveredAttempt (id : Uuid) (thresholdSats currentCredit : Nat)
  | invalidCooldown
  | attemptChanged
  | attemptChangedWhileResolved (id : Uuid)
  | unexpectedUnresolvedStatus (status : String)
  | nilIntent
  | unsupportedPool
  | intentLimit
  | differentTerms
  | invalidObservation
  | unknownIntent
  | unsupportedPolicy
  | bindingMismatch
  | missingTerm (term : String)
  | missingAllocation
  | invalidNativeSettlement
  | inconsistentProvenance
  | conflictingInbox
  | inboxCapacity
  | notHex32 (field : String)
  | zeroReceiveAmount
  | invoiceLength
  | conflictingRequest (receiveRequestId : Uuid)
  deriving DecidableEq, Repr

namespace LedgerError

def message : LedgerError → String
  | .sqlite (.unique table) => s!"UNIQUE constraint failed: {table}"
  | .sqlite (.check table) => s!"CHECK constraint failed: {table}"
  | .sqlite (.foreignKey _) => "FOREIGN KEY constraint failed"
  | .sqlite (.trigger text) => text
  | .sqlite .integerOverflow => "integer overflow"
  | .sqlite .rowNotFound =>
      "no rows returned by a query that expected to return at least one row"
  | .credit error => error.message
  | .sourceLength => "payment source must contain 1 to 32 characters"
  | .sourceCharacters => "payment source contains unsupported characters"
  | .externalIdLength field maxLen => s!"{field} must contain 1 to {maxLen} characters"
  | .externalIdControl field => s!"{field} must not contain control characters"
  | .invalidUser field => s!"invalid {field}"
  | .paymentHash => "payment_hash must be a 32-byte hex string"
  | .zeroAmount => "payment amount_msat must be greater than zero"
  | .notSatAligned amountMsat =>
      s!"payment amount_msat={amountMsat} is not sat-aligned; refusing lossy feed-credit conversion"
  | .settledAtNegative => "payment settled_at must not be negative"
  | .contextNotJson => "payment context_json is not valid JSON"
  | .contextNotObject => "payment context_json must be a JSON object"
  | .sqliteRange field => s!"{field} exceeds SQLite INTEGER range"
  | .unexpectedlyNegative field => s!"{field} is unexpectedly negative"
  | .conflictingSettlement source sourceId =>
      s!"payment source identity {source}:{sourceId} already exists with conflicting settlement data"
  | .hashCollision hash existingSource existingSourceId source sourceId =>
      s!"payment_hash {hash} already belongs to {existingSource}:{existingSourceId}; refusing conflicting settlement {source}:{sourceId}"
  | .negativeCredit balance =>
      s!"ledger invariant violated: feed credit is negative ({balance})"
  | .zeroThreshold => "feeder threshold must be greater than zero"
  | .unresolvedAttempt id status =>
      s!"unresolved feed attempt {id.toText} is still {status}"
  | .attemptNotIn id expected => s!"feed attempt {id.toText} is not in {expected} state"
  | .uncoveredAttempt id thresholdSats currentCredit =>
      s!"ledger invariant violated: feed attempt {id.toText} requires {thresholdSats} sats but only {currentCredit} remain"
  | .invalidCooldown => "invalid feeder cooldown"
  | .attemptChanged => "feed attempt changed before no-dispatch resolution"
  | .attemptChangedWhileResolved id =>
      s!"feed attempt {id.toText} changed state while being resolved"
  | .unexpectedUnresolvedStatus status => s!"unexpected unresolved feed status {status}"
  | .nilIntent => "nil credit intent ID"
  | .unsupportedPool => "only the shared herd credit pool is supported"
  | .intentLimit => "invalid immutable intent credit limit"
  | .differentTerms => "credit intent already has different immutable terms"
  | .invalidObservation => "invalid XMR receipt observation"
  | .unknownIntent => "unknown XMR credit intent"
  | .unsupportedPolicy => "unsupported stored quote policy"
  | .bindingMismatch => "receipt does not match the intent receive binding"
  | .missingTerm term => s!"quote missing {term}"
  | .missingAllocation => "missing credit allocation"
  | .invalidNativeSettlement => "invalid native BTC settlement"
  | .inconsistentProvenance => "native BTC receipt provenance is inconsistent"
  | .conflictingInbox => "conflicting Strike inbox identity"
  | .inboxCapacity => "Strike inbox capacity exhausted"
  | .notHex32 field => s!"{field} must be a 32-byte hex string"
  | .zeroReceiveAmount => "Strike receive request amount_msat must be greater than zero"
  | .invoiceLength => "Strike BOLT11 invoice must contain 1 to 8192 characters"
  | .conflictingRequest receiveRequestId =>
      s!"Strike receive_request_id {receiveRequestId.toText} already exists with conflicting request data"

def reportsViolation : LedgerError → Bool
  | .negativeCredit _ | .uncoveredAttempt _ _ _ => true
  | _ => false

end LedgerError

/-! ## Durable events -/

/-- The values that occur in event payloads. `raw` is a nested value that is
carried along already serialized. -/
inductive JsonValue
  | null
  | string (text : String)
  | number (value : Int)
  | raw (json : String)
  deriving DecidableEq, Repr

structure Event where
  eventType : String
  payload : List (String × JsonValue)
  deriving DecidableEq, Repr

def Event.feedCreditSats? (event : Event) : Option Int :=
  match event.payload.lookup "feed_credit_sats" with
  | some (.number value) => some value
  | _ => none

def Event.carriesBalance (event : Event) : Bool :=
  event.eventType ∈ ["payment_received", "feeder_confirmed", "feed_reconciled_not_fed"]

/-! ## Rows -/

structure SettledPaymentRow where
  source : String
  sourceId : String
  paymentHash : Option String
  addressUser : String
  creditPool : String
  amountMsat : Int
  settledAt : Option Int
  contextJson : Option String
  deriving DecidableEq, Repr

abbrev SettledPaymentRow.Clash : SettledPaymentRow → SettledPaymentRow → Prop :=
  EitherClash (SameKey fun row => some (row.source, row.sourceId))
    (SameKey SettledPaymentRow.paymentHash)

structure LedgerEntry where
  entryType : String
  sourceKey : String
  deltaSats : Int
  paymentHash : Option String := none
  paymentSource : Option String := none
  paymentSourceId : Option String := none
  addressUser : Option String := none
  creditPool : Option String := none
  feedAttemptId : Option String := none
  deriving DecidableEq, Repr

abbrev LedgerEntry.Clash : LedgerEntry → LedgerEntry → Prop :=
  SameKey fun entry => some entry.sourceKey

inductive FeedAttemptStatus
  | intentCommitted
  | confirmed
  | unknown
  | reconciledNotFed
  deriving DecidableEq, Repr

namespace FeedAttemptStatus

def asStr : FeedAttemptStatus → String
  | intentCommitted => "intent_committed"
  | confirmed => "confirmed"
  | unknown => "unknown"
  | reconciledNotFed => "reconciled_not_fed"

def isUnresolved : FeedAttemptStatus → Bool
  | intentCommitted | unknown => true
  | confirmed | reconciledNotFed => false

end FeedAttemptStatus

structure FeedAttempt where
  id : Uuid
  status : FeedAttemptStatus
  thresholdSats : Int
  resolvedAt : Option Int := none
  error : Option String := none
  deriving DecidableEq, Repr

/-- The primary key, and the partial index `one_unresolved_feed_attempt`. -/
abbrev FeedAttempt.Clash : FeedAttempt → FeedAttempt → Prop :=
  EitherClash (SameKey fun attempt => some attempt.id)
    (SameKey fun attempt => if attempt.status.isUnresolved then some () else none)

structure Valuation where
  id : String
  asset : Asset
  network : String
  provider : String
  accountScope : String
  receiveScope : String
  addressUser : String
  creditPool : String
  expectedAtomic : Int
  targetSats : Int
  maxCreditSats : Int
  rateNumerator : Option String
  rateDenominator : Option String
  rateSource : Option String
  rateObservedAt : Option Int
  issuedAt : Option Int
  expiresAt : Option Int
  policyVersion : String
  deriving DecidableEq, Repr

abbrev Valuation.Clash : Valuation → Valuation → Prop :=
  EitherClash (SameKey fun row => some row.id)
    (SameKey fun row =>
      some (row.asset, row.network, row.provider, row.accountScope, row.receiveScope))

instance : DecidableRel Valuation.Clash := fun left right =>
  inferInstanceAs (Decidable (EitherClash _ _ left right))

inductive CreditHold
  | receiptConflict
  | finalityRegression
  | doubleSpend
  | allocationMismatch
  | creditLimit
  | providerInconsistency
  deriving DecidableEq, Repr

structure AllocationRow where
  valuationId : String
  eligibleAtomic : Int
  creditedSats : Int
  holdReason : Option CreditHold
  deriving DecidableEq, Repr

abbrev AllocationRow.Clash : AllocationRow → AllocationRow → Prop :=
  SameKey fun row => some row.valuationId

structure AssetReceipt where
  valuationId : String
  receiptKey : String
  amountAtomic : Int
  firstSeenAt : Option Int
  unlocked : Bool
  eligible : Bool
  btcSettlementId : Option Nat
  deriving DecidableEq, Repr

abbrev AssetReceipt.Clash : AssetReceipt → AssetReceipt → Prop :=
  EitherClash (SameKey fun row => some (row.valuationId, row.receiptKey))
    (SameKey AssetReceipt.btcSettlementId)

structure CreditGrant where
  receiptId : Nat
  deltaSats : Int
  cumulativeAtomic : Int
  cumulativeSats : Int
  ledgerEntryId : Option Nat
  eventSeq : Option Nat
  deriving DecidableEq, Repr

abbrev CreditGrant.Clash : CreditGrant → CreditGrant → Prop :=
  EitherClash (SameKey fun row => some row.receiptId)
    (EitherClash (SameKey CreditGrant.ledgerEntryId) (SameKey CreditGrant.eventSeq))

structure CreditConflict where
  valuationId : String
  receiptKey : String
  amountAtomic : Int
  firstSeenAt : Int
  unlocked : Bool
  reason : CreditHold
  deriving DecidableEq, Repr

abbrev CreditConflict.Clash : CreditConflict → CreditConflict → Prop :=
  SameKey some

structure StoredStrikeReceiveRequest where
  receiveRequestId : Uuid
  addressUser : String
  creditPool : String
  amountMsat : Nat
  descriptionHash : String
  paymentHash : String
  invoice : String
  createdProvider : Option String
  deriving DecidableEq, Repr

structure StrikeReceiveRequestRow where
  request : StoredStrikeReceiveRequest
  createdAt : Int
  deriving DecidableEq, Repr

abbrev StrikeReceiveRequestRow.Clash :
    StrikeReceiveRequestRow → StrikeReceiveRequestRow → Prop :=
  EitherClash (SameKey fun row => some row.request.receiveRequestId)
    (SameKey fun row => some row.request.paymentHash)

inductive InboxStatus
  | pending
  | quarantined
  | done
  deriving DecidableEq, Repr

structure InboxRow where
  workKey : String
  eventId : Uuid
  receiveRequestId : Uuid
  receiveId : Uuid
  status : InboxStatus
  attempts : Nat
  nextAttempt : Int
  createdAt : Int
  deriving DecidableEq, Repr

abbrev InboxRow.Clash : InboxRow → InboxRow → Prop :=
  SameKey fun row => some row.workKey

structure ScanRow where
  receiveRequestId : Uuid
  pageOffset : Nat
  attempts : Nat
  nextAttempt : Int
  deriving DecidableEq, Repr

abbrev ScanRow.Clash : ScanRow → ScanRow → Prop :=
  SameKey fun row => some row.receiveRequestId

/-! ## The database -/

structure Db where
  settledPayments : Table SettledPaymentRow.Clash
  ledgerEntries : Table LedgerEntry.Clash
  feedAttempts : Table FeedAttempt.Clash
  eventLog : Table (@NoClash Event)
  feederCooldown : Int
  creditValuations : Table Valuation.Clash
  creditAllocations : Table AllocationRow.Clash
  assetReceipts : Table AssetReceipt.Clash
  creditGrants : Table CreditGrant.Clash
  creditConflicts : Table CreditConflict.Clash
  strikeReceiveRequests : Table StrikeReceiveRequestRow.Clash
  strikeInbox : Table InboxRow.Clash
  strikeRecoveryScan : Table ScanRow.Clash

def Db.fresh : Db where
  settledPayments := .empty
  ledgerEntries := .empty
  feedAttempts := .empty
  eventLog := .empty
  feederCooldown := 0
  creditValuations := .empty
  creditAllocations := .empty
  assetReceipts := .empty
  creditGrants := .empty
  creditConflicts := .empty
  strikeReceiveRequests := .empty
  strikeInbox := .empty
  strikeRecoveryScan := .empty

/-- Insert a row that satisfies the `CHECK` constraints of its table, unless a
unique index already holds one of its keys. Returns the table and the rowid. -/
def insertRow {Row : Type} {clash : Row → Row → Prop} [DecidableRel clash] (name : String)
    (valid : Row → Prop) [DecidablePred valid] (table : Table clash) (row : Row) :
    Except LedgerError (Table clash × Nat) :=
  if valid row then
    if fresh : table.Fresh row then .ok (table.insert row fresh, table.nextRowid)
    else .error (.sqlite (.unique name))
  else .error (.sqlite (.check name))

theorem insertRow_eq_ok {Row : Type} {clash : Row → Row → Prop} [DecidableRel clash]
    {name : String} {valid : Row → Prop} [DecidablePred valid] {table next : Table clash}
    {row : Row} {rowid : Nat} :
    insertRow name valid table row = .ok (next, rowid) ↔
      valid row ∧ rowid = table.nextRowid ∧
        ∃ fresh : table.Fresh row, next = table.insert row fresh := by
  unfold insertRow
  constructor
  · intro inserted
    split at inserted
    · rename_i holds
      split at inserted
      · rename_i fresh
        cases inserted
        exact ⟨holds, rfl, fresh, rfl⟩
      · cases inserted
    · cases inserted
  · rintro ⟨holds, rfl, fresh, rfl⟩
    rw [if_pos holds, dif_pos fresh]

/-! ## Integer conversions -/

def maxI64 : Int := maxAccountingUnits

def toI64 (value : Nat) (field : String) : Except LedgerError Int :=
  if value ≤ maxAccountingUnits then .ok value else .error (.sqliteRange field)

def toU64 (value : Int) (field : String) : Except LedgerError Nat :=
  if 0 ≤ value then .ok value.toNat else .error (.unexpectedlyNegative field)

@[simp] theorem toI64_eq_ok {value : Nat} {field : String} {result : Int} :
    toI64 value field = .ok result ↔ value ≤ maxAccountingUnits ∧ result = value := by
  unfold toI64
  split
  · simp_all [eq_comm]
  · simp_all

@[simp] theorem toU64_eq_ok {value : Int} {field : String} {result : Nat} :
    toU64 value field = .ok result ↔ value = result := by
  unfold toU64
  split
  · rename_i nonneg
    simp only [Except.ok.injEq]
    omega
  · rename_i negative
    simp only [reduceCtorEq, false_iff]
    omega

end LightningGoats
