import LightningGoats.Ledger.Credit

/-! # Native BTC settlements

A provider-authoritative settlement is recorded exactly once: the row, its
ledger entry, its event and its provenance are committed together.
-/

namespace LightningGoats

open Outcome Relational

structure SettledPayment where
  source : String
  sourceId : String
  paymentHash : Option String
  addressUser : String
  creditPool : String
  amountMsat : Nat
  settledAt : Option Int
  contextJson : Option String
  deriving DecidableEq, Repr

inductive SettlementOutcome
  | credited (sats : Nat) (addressUser creditPool : String)
  | duplicate
  deriving DecidableEq, Repr

def SettledPaymentRow.Valid (row : SettledPaymentRow) : Prop :=
  FitsColumn 32 row.source ∧ FitsColumn 256 row.sourceId ∧ FitsColumn 64 row.addressUser ∧
    FitsColumn 64 row.creditPool ∧ 0 < row.amountMsat ∧
    ∀ settledAt ∈ row.settledAt, 0 ≤ settledAt

instance : DecidablePred SettledPaymentRow.Valid :=
  fun row => inferInstanceAs (Decidable (FitsColumn 32 row.source ∧
    FitsColumn 256 row.sourceId ∧ FitsColumn 64 row.addressUser ∧
    FitsColumn 64 row.creditPool ∧ 0 < row.amountMsat ∧
    ∀ settledAt ∈ row.settledAt, 0 ≤ settledAt))

def validateContextJson [SerdeJson] (contextJson : Option String) :
    Except LedgerError Unit :=
  match contextJson with
  | none => return
  | some text => do
      let isObject ← require (SerdeJson.isObject text) .contextNotJson
      ensure (isObject = true) .contextNotObject

def validateOptionalHash (paymentHash : Option String) : Except LedgerError Unit :=
  match paymentHash with
  | some hash => validatePaymentHash hash
  | none => return

def validatePayment [SerdeJson] (payment : SettledPayment) : Except LedgerError Unit := do
  validateSource payment.source
  validateExternalId payment.sourceId "payment source_id" 256
  validateUser payment.addressUser "address_user"
  validateUser payment.creditPool "credit_pool"
  validateOptionalHash payment.paymentHash
  ensure (payment.amountMsat ≠ 0) .zeroAmount
  ensure (payment.amountMsat % 1000 = 0) (.notSatAligned payment.amountMsat)
  ensure (∀ settledAt ∈ payment.settledAt, 0 ≤ settledAt) .settledAtNegative
  validateContextJson payment.contextJson

namespace SettledPayment

def row (payment : SettledPayment) (amountMsat : Int) : SettledPaymentRow where
  source := payment.source
  sourceId := payment.sourceId
  paymentHash := payment.paymentHash
  addressUser := payment.addressUser
  creditPool := payment.creditPool
  amountMsat := amountMsat
  settledAt := payment.settledAt
  contextJson := payment.contextJson

def entry (payment : SettledPayment) (creditedSats : Int) : LedgerEntry where
  entryType := "HERD_RECEIPT"
  sourceKey := paymentKey payment.source payment.sourceId
  deltaSats := creditedSats
  paymentHash := payment.paymentHash
  paymentSource := some payment.source
  paymentSourceId := some payment.sourceId
  addressUser := some payment.addressUser
  creditPool := some payment.creditPool

def announcement (payment : SettledPayment) (creditedSats feedCreditSats : Nat) :
    List (String × JsonValue) :=
  [("source", .string payment.source), ("source_id", .string payment.sourceId),
    ("payment_hash", match payment.paymentHash with
      | some hash => .string hash
      | none => .null),
    ("address_user", .string payment.addressUser),
    ("credit_pool", .string payment.creditPool), ("amount_sats", .number creditedSats),
    ("feed_credit_sats", .number feedCreditSats)]

/-- A redelivery of the settlement in `row`. The context is not compared. -/
def Redelivers (payment : SettledPayment) (amountMsat : Int) (row : SettledPaymentRow) :
    Prop :=
  row.paymentHash = payment.paymentHash ∧ row.addressUser = payment.addressUser ∧
    row.creditPool = payment.creditPool ∧ row.amountMsat = amountMsat ∧
    row.settledAt = payment.settledAt

instance (payment : SettledPayment) (amountMsat : Int) (row : SettledPaymentRow) :
    Decidable (payment.Redelivers amountMsat row) :=
  inferInstanceAs (Decidable (row.paymentHash = payment.paymentHash ∧
    row.addressUser = payment.addressUser ∧ row.creditPool = payment.creditPool ∧
    row.amountMsat = amountMsat ∧ row.settledAt = payment.settledAt))

end SettledPayment

def findSettlement (source sourceId : String) (db : Db) : Option (Nat × SettledPaymentRow) :=
  db.settledPayments.entries.find? fun entry =>
    entry.2.source = source && entry.2.sourceId = sourceId

def checkHashCollision (payment : SettledPayment) (db : Db) : Except LedgerError Unit :=
  match payment.paymentHash with
  | none => return
  | some hash =>
      match db.settledPayments.rows.find? fun row => row.paymentHash = some hash with
      | some row => throw (.hashCollision hash row.source row.sourceId payment.source
          payment.sourceId)
      | none => return

def settlePayment (payment : SettledPayment) (amountMsat creditedI64 : Int)
    (creditedSats : Nat) (db : Db) : Except LedgerError Db := do
  let settlements ← insertRow "settled_payments" SettledPaymentRow.Valid db.settledPayments
    (payment.row amountMsat)
  let entries ← insertRow "ledger_entries" (fun _ => True) db.ledgerEntries
    (payment.entry creditedI64)
  let booked := { db with settledPayments := settlements.1, ledgerEntries := entries.1 }
  let feedCreditSats ← feedCreditInTransaction booked
  let appended := appendEventInTransaction "payment_received"
    (payment.announcement creditedSats feedCreditSats) booked
  recordNativeBtc settlements.2 entries.2 appended.2 appended.1

def recordPayment [SerdeJson] (payment : SettledPayment) (db : Db) :
    Except LedgerError (SettlementOutcome × Db) := do
  validatePayment payment
  let amountMsat ← toI64 payment.amountMsat "amount_msat"
  let creditedSats := payment.amountMsat / 1000
  let creditedI64 ← toI64 creditedSats "credited_sats"
  match findSettlement payment.source payment.sourceId db with
  | some existing =>
      if payment.Redelivers amountMsat existing.2 then do
        verifyNativeBtc existing.1 db
        return (.duplicate, db)
      else throw (.conflictingSettlement payment.source payment.sourceId)
  | none => do
      checkHashCollision payment db
      let settled ← settlePayment payment amountMsat creditedI64 creditedSats db
      return (.credited creditedSats payment.addressUser payment.creditPool, settled)

def feedCreditSats (db : Db) : Except LedgerError Nat :=
  feedCreditInTransaction db

end LightningGoats
