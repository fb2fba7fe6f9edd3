import LightningGoats.Ledger.Events

/-! # Asset receipts and their provenance

An XMR receipt is valued against the immutable quote of its intent. The
allocation of an intent keeps two watermarks, the eligible amount and the sats
credited for it; a receipt is granted what its amount adds to the value of the
first. A native BTC settlement has the identity valuation, and records the
same provenance rows in one go.
-/

namespace LightningGoats

open Outcome Relational

inductive XmrNetwork
  | mainnet
  | testnet
  | stagenet
  deriving DecidableEq, Repr

def XmrNetwork.asStr : XmrNetwork → String
  | mainnet => "mainnet"
  | testnet => "testnet"
  | stagenet => "stagenet"

structure XmrCreditIntent where
  id : Uuid
  provider : String
  network : XmrNetwork
  accountScope : String
  receiveScope : String
  addressUser : String
  creditPool : String
  quote : XmrQuote
  maxCreditSats : Nat
  deriving DecidableEq

structure XmrReceiptObservation where
  provider : String
  network : XmrNetwork
  accountScope : String
  receiveScope : String
  receiptKey : String
  amount : AssetAmount
  firstSeenAt : Int
  unlocked : Bool
  doubleSpendSeen : Bool
  deriving DecidableEq, Repr

inductive CreditReceiptOutcome
  | duplicate
  | pending
  | held
  | recorded (deltaSats feedCreditSats : Nat)
  deriving DecidableEq, Repr

structure CreditAllocation where
  eligibleAtomic : Nat
  creditedSats : Nat
  holdReason : Option CreditHold
  deriving DecidableEq, Repr

def xmrPolicy : String := "xmr-unlocked-quote-v1"

def xmrId (id : Uuid) : String :=
  Text.joined ':' "xmr" id.toText

def liftCredit {α : Type} (outcome : Except CreditError α) : Except LedgerError α :=
  outcome.mapError .credit

/-- A cast to an unsigned 64-bit integer, which wraps. -/
def asU64 (value : Int) : Nat :=
  (value % 2 ^ 64).toNat

/-! ## Rows and their constraints -/

namespace Valuation

def Valid (row : Valuation) : Prop :=
  0 < row.expectedAtomic ∧ 0 < row.targetSats ∧ row.targetSats ≤ row.maxCreditSats ∧
    match row.asset with
    | .btc =>
        row.expectedAtomic = 1 ∧ row.targetSats = 1 ∧ row.rateNumerator = none ∧
          row.rateDenominator = none ∧ row.rateSource = none ∧ row.rateObservedAt = none ∧
          row.issuedAt = none ∧ row.expiresAt = none
    | .xmr =>
        row.rateNumerator.isSome = true ∧ row.rateDenominator.isSome = true ∧
          row.rateSource.isSome = true ∧
          ∃ observed ∈ row.rateObservedAt, ∃ issued ∈ row.issuedAt,
            ∃ expires ∈ row.expiresAt, 0 ≤ observed ∧ observed ≤ issued ∧ issued < expires

instance : DecidablePred Valid := fun row => by
  unfold Valid
  cases row.asset <;> infer_instance

end Valuation

def AllocationRow.Valid (row : AllocationRow) : Prop :=
  0 ≤ row.eligibleAtomic ∧ 0 ≤ row.creditedSats

instance : DecidablePred AllocationRow.Valid :=
  fun row => inferInstanceAs (Decidable (0 ≤ row.eligibleAtomic ∧ 0 ≤ row.creditedSats))

def AssetReceipt.Valid (row : AssetReceipt) : Prop :=
  FitsColumn 256 row.receiptKey ∧ 0 < row.amountAtomic ∧
    ∀ firstSeen ∈ row.firstSeenAt, 0 ≤ firstSeen

instance : DecidablePred AssetReceipt.Valid :=
  fun row => inferInstanceAs (Decidable (FitsColumn 256 row.receiptKey ∧
    0 < row.amountAtomic ∧ ∀ firstSeen ∈ row.firstSeenAt, 0 ≤ firstSeen))

/-- A grant of no sats has no ledger entry and no event; any other grant has a
ledger entry. -/
def CreditGrant.Valid (row : CreditGrant) : Prop :=
  0 ≤ row.deltaSats ∧ 0 < row.cumulativeAtomic ∧ row.deltaSats ≤ row.cumulativeSats ∧
    (row.deltaSats = 0 ∧ row.ledgerEntryId = none ∧ row.eventSeq = none ∨
      0 < row.deltaSats ∧ row.ledgerEntryId.isSome = true)

instance : DecidablePred CreditGrant.Valid :=
  fun row => inferInstanceAs (Decidable (0 ≤ row.deltaSats ∧ 0 < row.cumulativeAtomic ∧
    row.deltaSats ≤ row.cumulativeSats ∧
      (row.deltaSats = 0 ∧ row.ledgerEntryId = none ∧ row.eventSeq = none ∨
        0 < row.deltaSats ∧ row.ledgerEntryId.isSome = true)))

def Valuation.insert (valuation : Valuation) (db : Db) : Except LedgerError Db := do
  let valuations ← insertRow "credit_valuations" Valuation.Valid db.creditValuations valuation
  let allocations ← insertRow "credit_allocations" AllocationRow.Valid db.creditAllocations
    ⟨valuation.id, 0, 0, none⟩
  return { db with creditValuations := valuations.1, creditAllocations := allocations.1 }

/-! ## Allocations -/

def allocationInTx (id : String) (db : Db) : Except LedgerError CreditAllocation := do
  let row ← require (db.creditAllocations.rows.find? fun row => row.valuationId = id)
    .missingAllocation
  let eligibleAtomic ← toU64 row.eligibleAtomic "allocation amount"
  let creditedSats ← toU64 row.creditedSats "allocation credit"
  return ⟨eligibleAtomic, creditedSats, row.holdReason⟩

/-- `SET hold_reason = COALESCE(hold_reason, …)` -/
def AllocationRow.hold (id : String) (reason : CreditHold) (row : AllocationRow) :
    AllocationRow :=
  if row.valuationId = id then { row with holdReason := row.holdReason.or (some reason) }
  else row

def AllocationRow.setWatermarks (id : String) (eligible credited : Int)
    (row : AllocationRow) : AllocationRow :=
  if row.valuationId = id then
    { row with eligibleAtomic := eligible, creditedSats := credited }
  else row

@[simp] theorem AllocationRow.hold_valuationId (id : String) (reason : CreditHold)
    (row : AllocationRow) : (row.hold id reason).valuationId = row.valuationId := by
  unfold AllocationRow.hold
  split <;> rfl

@[simp] theorem AllocationRow.setWatermarks_valuationId (id : String)
    (eligible credited : Int) (row : AllocationRow) :
    (row.setWatermarks id eligible credited).valuationId = row.valuationId := by
  unfold AllocationRow.setWatermarks
  split <;> rfl

/-- Hold an allocation unless it is held already, with the number of rows affected. -/
def holdAllocation (id : String) (reason : CreditHold) (db : Db) : Db × Nat :=
  ({ db with
      creditAllocations := db.creditAllocations.update (AllocationRow.hold id reason)
        fun left right => SameKey.of_preserved (by simp) (by simp) },
    (db.creditAllocations.rows.filter fun row => row.valuationId = id).length)

/-- Raise the watermarks of an allocation. The trigger `credit_allocations_monotone`
refuses to lower them. -/
def setAllocation (id : String) (eligible credited : Int) (db : Db) :
    Except LedgerError Db := do
  ensure (∀ row ∈ db.creditAllocations.rows, row.valuationId = id →
      row.eligibleAtomic ≤ eligible ∧ row.creditedSats ≤ credited)
    (.sqlite (.trigger "allocation cannot regress or release a hold"))
  ensure (∀ row ∈ db.creditAllocations.rows, row.valuationId = id →
      0 ≤ eligible ∧ 0 ≤ credited)
    (.sqlite (.check "credit_allocations"))
  return { db with
    creditAllocations :=
      db.creditAllocations.update (AllocationRow.setWatermarks id eligible credited)
        fun left right => SameKey.of_preserved (by simp) (by simp) }

/-! ## XMR intents -/

def XmrCreditIntent.valuation (intent : XmrCreditIntent) (expected target limit : Int) :
    Valuation where
  id := xmrId intent.id
  asset := .xmr
  network := intent.network.asStr
  provider := intent.provider
  accountScope := intent.accountScope
  receiveScope := intent.receiveScope
  addressUser := intent.addressUser
  creditPool := intent.creditPool
  expectedAtomic := expected
  targetSats := target
  maxCreditSats := limit
  rateNumerator := some (toString intent.quote.rate.numerator)
  rateDenominator := some (toString intent.quote.rate.denominator)
  rateSource := some intent.quote.rate.source
  rateObservedAt := some intent.quote.rate.observedAt
  issuedAt := some intent.quote.issuedAt
  expiresAt := some intent.quote.expiresAt
  policyVersion := xmrPolicy

def registerXmrIntentInTransaction (intent : XmrCreditIntent) (db : Db) :
    Except LedgerError Db := do
  ensure (intent.id.isNil = false) .nilIntent
  validateSource intent.provider
  validateExternalId intent.accountScope "account scope" 256
  validateExternalId intent.receiveScope "receive scope" 256
  validateUser intent.addressUser "address_user"
  ensure (intent.creditPool = "herd") .unsupportedPool
  ensure (intent.quote.terms.targetSats ≤ intent.maxCreditSats ∧
    intent.maxCreditSats ≤ maxAccountingUnits) .intentLimit
  let expected ← toI64 intent.quote.terms.expectedAtomic "quoted amount"
  let target ← toI64 intent.quote.terms.targetSats "quoted credit"
  let limit ← toI64 intent.maxCreditSats "credit limit"
  let valuation := intent.valuation expected target limit
  match db.creditValuations.rows.find? fun row => row.id = valuation.id with
  | some existing => do
      ensure (existing = valuation) .differentTerms
      return db
  | none => valuation.insert db

def registerXmrCreditIntent (intent : XmrCreditIntent) (db : Db) :
    Except LedgerError (Unit × Db) := do
  let registered ← registerXmrIntentInTransaction intent db
  return ((), registered)

/-! ## XMR receipts -/

def validateObservation (observation : XmrReceiptObservation) : Except LedgerError Int := do
  validateExternalId observation.receiptKey "receipt key" 256
  ensure (observation.amount.asset = .xmr ∧ observation.amount.atomicUnits ≠ 0 ∧
    0 ≤ observation.firstSeenAt) .invalidObservation
  toI64 observation.amount.atomicUnits "receipt amount"

def XmrReceiptObservation.Binds (observation : XmrReceiptObservation)
    (valuation : Valuation) : Prop :=
  observation.provider = valuation.provider ∧
    observation.network.asStr = valuation.network ∧
    observation.accountScope = valuation.accountScope ∧
    observation.receiveScope = valuation.receiveScope

instance (observation : XmrReceiptObservation) (valuation : Valuation) :
    Decidable (observation.Binds valuation) :=
  inferInstanceAs (Decidable (observation.provider = valuation.provider ∧
    observation.network.asStr = valuation.network ∧
    observation.accountScope = valuation.accountScope ∧
    observation.receiveScope = valuation.receiveScope))

def boundValuation (id : String) (observation : XmrReceiptObservation) (db : Db) :
    Except LedgerError Valuation := do
  let valuation ← require
    (db.creditValuations.rows.find? fun row => row.id = id && row.asset = .xmr)
    .unknownIntent
  ensure (valuation.policyVersion = xmrPolicy) .unsupportedPolicy
  ensure (observation.Binds valuation) .bindingMismatch
  return valuation

def findReceipt (id receiptKey : String) (db : Db) : Option (Nat × AssetReceipt) :=
  db.assetReceipts.entries.find? fun entry =>
    entry.2.valuationId = id && entry.2.receiptKey = receiptKey

def conflictReason (row : AssetReceipt) (amount : Int)
    (observation : XmrReceiptObservation) : Option CreditHold :=
  if row.amountAtomic ≠ amount ∨ row.firstSeenAt ≠ some observation.firstSeenAt then
    some .receiptConflict
  else if row.unlocked = true ∧ observation.unlocked = false then some .finalityRegression
  else if observation.doubleSpendSeen = true then some .doubleSpend
  else none

def holdObservation (id : String) (observation : XmrReceiptObservation)
    (reason : CreditHold) (db : Db) : Except LedgerError Db := do
  let amount ← toI64 observation.amount.atomicUnits "conflict amount"
  let row : CreditConflict := ⟨id, observation.receiptKey, amount, observation.firstSeenAt,
    observation.unlocked, reason⟩
  let conflicts := if fresh : db.creditConflicts.Fresh row then
    db.creditConflicts.insert row fresh else db.creditConflicts
  return (holdAllocation id reason { db with creditConflicts := conflicts }).1

def isTimely (valuation : Valuation) (observation : XmrReceiptObservation) :
    Except LedgerError Bool := do
  let issuedAt ← require valuation.issuedAt (.missingTerm "issue time")
  if observation.firstSeenAt < issuedAt then return false
  else do
    let expiresAt ← require valuation.expiresAt (.missingTerm "expiry")
    return decide (observation.firstSeenAt < expiresAt)

def storeReceipt (id : String) (amount : Int) (observation : XmrReceiptObservation)
    (timely : Bool) (existing : Option (Nat × AssetReceipt)) (db : Db) :
    Except LedgerError (Nat × Db) :=
  match existing with
  | some entry => return (entry.1, db)
  | none => do
      let inserted ← insertRow "asset_receipts" AssetReceipt.Valid db.assetReceipts {
        valuationId := id
        receiptKey := observation.receiptKey
        amountAtomic := amount
        firstSeenAt := some observation.firstSeenAt
        unlocked := observation.unlocked
        eligible := timely && !observation.doubleSpendSeen
        btcSettlementId := none }
      return (inserted.2, { db with assetReceipts := inserted.1 })

def AssetReceipt.unlock (receiptId rowid : Nat) (row : AssetReceipt) : AssetReceipt :=
  if rowid = receiptId then { row with unlocked := true } else row

@[simp] theorem AssetReceipt.unlock_valuationId (receiptId rowid : Nat)
    (row : AssetReceipt) : (row.unlock receiptId rowid).valuationId = row.valuationId := by
  unfold AssetReceipt.unlock
  split <;> rfl

@[simp] theorem AssetReceipt.unlock_receiptKey (receiptId rowid : Nat)
    (row : AssetReceipt) : (row.unlock receiptId rowid).receiptKey = row.receiptKey := by
  unfold AssetReceipt.unlock
  split <;> rfl

@[simp] theorem AssetReceipt.unlock_amountAtomic (receiptId rowid : Nat)
    (row : AssetReceipt) : (row.unlock receiptId rowid).amountAtomic = row.amountAtomic := by
  unfold AssetReceipt.unlock
  split <;> rfl

@[simp] theorem AssetReceipt.unlock_firstSeenAt (receiptId rowid : Nat)
    (row : AssetReceipt) : (row.unlock receiptId rowid).firstSeenAt = row.firstSeenAt := by
  unfold AssetReceipt.unlock
  split <;> rfl

@[simp] theorem AssetReceipt.unlock_eligible (receiptId rowid : Nat)
    (row : AssetReceipt) : (row.unlock receiptId rowid).eligible = row.eligible := by
  unfold AssetReceipt.unlock
  split <;> rfl

@[simp] theorem AssetReceipt.unlock_btcSettlementId (receiptId rowid : Nat)
    (row : AssetReceipt) :
    (row.unlock receiptId rowid).btcSettlementId = row.btcSettlementId := by
  unfold AssetReceipt.unlock
  split <;> rfl

theorem AssetReceipt.unlock_unlocked {receiptId rowid : Nat} {row : AssetReceipt}
    (unlocked : row.unlocked = true) : (row.unlock receiptId rowid).unlocked = true := by
  unfold AssetReceipt.unlock
  split
  · rfl
  · exact unlocked

theorem AssetReceipt.clash_of_unlock (receiptId leftId rightId : Nat)
    (left right : AssetReceipt)
    (clashes : AssetReceipt.Clash (left.unlock receiptId leftId)
      (right.unlock receiptId rightId)) :
    AssetReceipt.Clash left right :=
  clashes.imp (fun same => same.of_preserved (by simp) (by simp)) fun same =>
    same.of_preserved (by simp) (by simp)

/-- `SET unlocked = 1 WHERE id = …` -/
def unlockReceipt (receiptId : Nat) (db : Db) : Db :=
  { db with
    assetReceipts := db.assetReceipts.updateEntries (AssetReceipt.unlock receiptId)
      (AssetReceipt.clash_of_unlock receiptId) }

@[simp] theorem entries_unlockReceipt (receiptId : Nat) (db : Db) :
    (unlockReceipt receiptId db).assetReceipts.entries =
      db.assetReceipts.entries.map fun entry =>
        (entry.1, entry.2.unlock receiptId entry.1) := rfl

theorem mem_rows_unlockReceipt {receiptId : Nat} {db : Db} {row : AssetReceipt} :
    row ∈ (unlockReceipt receiptId db).assetReceipts.rows ↔
      ∃ entry ∈ db.assetReceipts.entries, entry.2.unlock receiptId entry.1 = row := by
  simp [Table.rows]

def grantsOf (id : String) (db : Db) : List (CreditGrant × AssetReceipt) :=
  db.creditGrants.rows.filterMap fun grant =>
    (db.assetReceipts.get? grant.receiptId).bind fun receipt =>
      if receipt.valuationId = id then some (grant, receipt) else none

/-- The stored watermarks agree with the grant history and with the terms. -/
def watermarksAgree (terms : CreditTerms) (allocation : CreditAllocation)
    (atomic sats : Int) : Except LedgerError Bool := do
  let eligible ← toI64 allocation.eligibleAtomic "allocation"
  if atomic ≠ eligible then return false
  else do
    let credited ← toI64 allocation.creditedSats "allocation"
    if sats ≠ credited then return false
    else do
      let amount ← liftCredit (AssetAmount.new .xmr allocation.eligibleAtomic)
      return decide ((terms.cumulativeSats amount).toOption = some allocation.creditedSats)

/-- The update that one more amount calls for, if it stays within every range
and within the credit limit. -/
def nextUpdate (terms : CreditTerms) (allocation : CreditAllocation) (units : Nat)
    (maxCreditSats : Int) : Option CreditUpdate :=
  if allocation.eligibleAtomic + units ≤ maxAccountingUnits then
    ((AssetAmount.new .xmr allocation.eligibleAtomic).toOption.bind fun previous =>
      (AssetAmount.new .xmr (allocation.eligibleAtomic + units)).toOption.bind fun current =>
        (terms.assessUpdate previous allocation.creditedSats current).toOption).filter
      fun update => update.cumulativeCreditSats ≤ asU64 maxCreditSats
  else none

def receiptEntry (valuation : Valuation) (receiptId : Nat) (deltaSats : Int) :
    LedgerEntry where
  entryType := "HERD_RECEIPT"
  sourceKey := Text.joined ':' "asset-receipt" (toString receiptId)
  deltaSats := deltaSats
  addressUser := some valuation.addressUser
  creditPool := some valuation.creditPool

/-- Book and announce a grant, unless it is of no sats. Returns the ids of the
ledger entry and of the event. -/
def announceGrant (valuation : Valuation) (receiptId deltaSats feedCreditSats : Nat)
    (db : Db) : Except LedgerError ((Option Nat × Option Nat) × Db) :=
  if 0 < deltaSats then do
    let delta ← toI64 deltaSats "credit delta"
    let inserted ← insertRow "ledger_entries" (fun _ => True) db.ledgerEntries
      (receiptEntry valuation receiptId delta)
    let appended := appendEventInTransaction "payment_received"
      [("amount_sats", .number deltaSats), ("feed_credit_sats", .number feedCreditSats),
        ("address_user", .string valuation.addressUser),
        ("credit_pool", .string valuation.creditPool)]
      { db with ledgerEntries := inserted.1 }
    return ((some inserted.2, some appended.2), appended.1)
  else return ((none, none), db)

def commitGrant (id : String) (valuation : Valuation) (receiptId : Nat)
    (update : CreditUpdate) (feedCreditSats : Nat) (db : Db) : Except LedgerError Db := do
  let announced ← announceGrant valuation receiptId update.deltaSats feedCreditSats db
  let delta ← toI64 update.deltaSats "delta"
  let cumulativeAtomic ← toI64 update.cumulativeEligible.atomicUnits "cumulative amount"
  let cumulativeSats ← toI64 update.cumulativeCreditSats "cumulative credit"
  let grants ← insertRow "credit_grants" CreditGrant.Valid announced.2.creditGrants
    ⟨receiptId, delta, cumulativeAtomic, cumulativeSats, announced.1.1, announced.1.2⟩
  setAllocation id cumulativeAtomic cumulativeSats
    { announced.2 with creditGrants := grants.1 }

def reportHeld (id : String) (observation : XmrReceiptObservation) (reason : CreditHold)
    (db : Db) : Except LedgerError (CreditReceiptOutcome × Db) := do
  let held ← holdObservation id observation reason db
  return (.held, held)

/-- Grant an unlocked timely receipt of an allocation that is not held. -/
def grantReceipt (id : String) (valuation : Valuation) (allocation : CreditAllocation)
    (observation : XmrReceiptObservation) (receiptId : Nat) (db : Db) :
    Except LedgerError (CreditReceiptOutcome × Db) := do
  let expected ← toU64 valuation.expectedAtomic "quote amount"
  let target ← toU64 valuation.targetSats "quote credit"
  let terms ← liftCredit (CreditTerms.quotedXmr expected target)
  let atomic ← sqlSum ((grantsOf id db).map fun granted => granted.2.amountAtomic)
  let sats ← sqlSum ((grantsOf id db).map fun granted => granted.1.deltaSats)
  let agree ← watermarksAgree terms allocation atomic sats
  if agree = false then reportHeld id observation .allocationMismatch db
  else if db.creditGrants.rows.any (fun grant => grant.receiptId = receiptId) = true then
    return (.duplicate, db)
  else
    match nextUpdate terms allocation observation.amount.atomicUnits
        valuation.maxCreditSats with
    | none => reportHeld id observation .creditLimit db
    | some update => do
        let before ← feedCreditInTransaction db
        if maxAccountingUnits < before + update.deltaSats then
          reportHeld id observation .creditLimit db
        else do
          let feedCreditSats := before + update.deltaSats
          let granted ← commitGrant id valuation receiptId update feedCreditSats db
          return (.recorded update.deltaSats feedCreditSats, granted)

/-- Store or confirm a receipt that contradicts nothing stored, and grant it if
it is due. -/
def settleReceipt (id : String) (valuation : Valuation) (allocation : CreditAllocation)
    (amount : Int) (observation : XmrReceiptObservation)
    (existing : Option (Nat × AssetReceipt)) (db : Db) :
    Except LedgerError (CreditReceiptOutcome × Db) := do
  let timely ← isTimely valuation observation
  let stored ← storeReceipt id amount observation timely existing db
  let unlocked := if observation.unlocked = true then unlockReceipt stored.1 stored.2
    else stored.2
  if observation.doubleSpendSeen = true then
    reportHeld id observation .doubleSpend unlocked
  else if allocation.holdReason.isSome = true then return (.held, unlocked)
  else if timely = false then return (.held, unlocked)
  else if observation.unlocked = false then return (.pending, unlocked)
  else grantReceipt id valuation allocation observation stored.1 unlocked

def recordXmrReceipt (intentId : Uuid) (observation : XmrReceiptObservation) (db : Db) :
    Except LedgerError (CreditReceiptOutcome × Db) := do
  let amount ← validateObservation observation
  let id := xmrId intentId
  let valuation ← boundValuation id observation db
  let allocation ← allocationInTx id db
  let existing := findReceipt id observation.receiptKey db
  match existing.bind fun entry => conflictReason entry.2 amount observation with
  | some reason => reportHeld id observation reason db
  | none => settleReceipt id valuation allocation amount observation existing db

def holdXmrCreditIntent (intentId : Uuid) (db : Db) : Except LedgerError (Unit × Db) := do
  let held := holdAllocation (xmrId intentId) .providerInconsistency db
  ensure (held.2 = 1) .unknownIntent
  return ((), held.1)

def xmrCreditAllocation (intentId : Uuid) (db : Db) : Except LedgerError CreditAllocation :=
  allocationInTx (xmrId intentId) db

/-! ## Native BTC -/

def btcId (settlementId : Nat) : String :=
  Text.joined ':' "btc" (toString settlementId)

def btcValuation (settlementId : Nat) (payment : SettledPaymentRow) : Valuation where
  id := btcId settlementId
  asset := .btc
  network := "legacy-unspecified"
  provider := payment.source
  accountScope := "legacy-settled-payment"
  receiveScope := payment.sourceId
  addressUser := payment.addressUser
  creditPool := payment.creditPool
  expectedAtomic := 1
  targetSats := 1
  maxCreditSats := maxI64
  rateNumerator := none
  rateDenominator := none
  rateSource := none
  rateObservedAt := none
  issuedAt := none
  expiresAt := none
  policyVersion := "btc-identity-v1"

def btcReceipt (settlementId : Nat) (payment : SettledPaymentRow) (sats : Int) :
    AssetReceipt where
  valuationId := btcId settlementId
  receiptKey := payment.sourceId
  amountAtomic := sats
  firstSeenAt := none
  unlocked := true
  eligible := true
  btcSettlementId := some settlementId

def recordNativeBtc (settlementId ledgerId eventSeq : Nat) (db : Db) :
    Except LedgerError Db := do
  let payment ← require (db.settledPayments.get? settlementId) (.sqlite .rowNotFound)
  ensure (0 < payment.amountMsat ∧ payment.amountMsat % 1000 = 0) .invalidNativeSettlement
  let amount ← liftCredit (AssetAmount.new .btc (payment.amountMsat / 1000).toNat)
  let sats ← liftCredit amount.nativeSats
  let nothing ← liftCredit (AssetAmount.new .btc 0)
  let everything ← liftCredit (AssetAmount.new .btc sats)
  let update ← liftCredit (CreditTerms.nativeBtc.assessUpdate nothing 0 everything)
  let valued ← (btcValuation settlementId payment).insert db
  let satsI64 ← toI64 sats "native sats"
  let receipts ← insertRow "asset_receipts" AssetReceipt.Valid valued.assetReceipts
    (btcReceipt settlementId payment satsI64)
  let delta ← toI64 update.deltaSats "delta"
  let grants ← insertRow "credit_grants" CreditGrant.Valid valued.creditGrants
    ⟨receipts.2, delta, satsI64, satsI64, some ledgerId, some eventSeq⟩
  setAllocation (btcId settlementId) satsI64 satsI64
    { valued with assetReceipts := receipts.1, creditGrants := grants.1 }

def paymentKey (source sourceId : String) : String :=
  Text.joined ':' "payment" (Text.joined ':' source sourceId)

/-- The receipt, valuation, allocation, grant and ledger entry that the join
over the provenance tables accepts for a settlement. -/
def provenanceMatches (settlementId : Nat) (payment : SettledPaymentRow)
    (receipt : Nat × AssetReceipt) (valuation : Valuation) (allocation : AllocationRow)
    (grant : CreditGrant) (entry : Nat × LedgerEntry) : Bool :=
  receipt.2.btcSettlementId = some settlementId && valuation.id = receipt.2.valuationId &&
    allocation.valuationId = valuation.id && grant.receiptId = receipt.1 &&
    grant.ledgerEntryId = some entry.1 && payment.amountMsat % 1000 = 0 &&
    valuation.asset = .btc && valuation.provider = payment.source &&
    valuation.receiveScope = payment.sourceId &&
    valuation.addressUser = payment.addressUser &&
    valuation.creditPool = payment.creditPool && valuation.expectedAtomic = 1 &&
    valuation.targetSats = 1 && receipt.2.receiptKey = payment.sourceId &&
    receipt.2.amountAtomic = payment.amountMsat / 1000 && receipt.2.unlocked &&
    receipt.2.eligible && allocation.eligibleAtomic = receipt.2.amountAtomic &&
    allocation.creditedSats = receipt.2.amountAtomic && allocation.holdReason = none &&
    grant.deltaSats = receipt.2.amountAtomic &&
    grant.cumulativeAtomic = receipt.2.amountAtomic &&
    grant.cumulativeSats = receipt.2.amountAtomic &&
    entry.2.deltaSats = receipt.2.amountAtomic &&
    entry.2.sourceKey = paymentKey payment.source payment.sourceId &&
    entry.2.entryType = "HERD_RECEIPT"

def hasNativeProvenance (settlementId : Nat) (db : Db) : Bool :=
  (db.settledPayments.get? settlementId).any fun payment =>
    db.assetReceipts.entries.any fun receipt =>
      db.creditValuations.rows.any fun valuation =>
        db.creditAllocations.rows.any fun allocation =>
          db.creditGrants.rows.any fun grant =>
            db.ledgerEntries.entries.any fun entry =>
              provenanceMatches settlementId payment receipt valuation allocation grant entry

def verifyNativeBtc (settlementId : Nat) (db : Db) : Except LedgerError Unit :=
  ensure (hasNativeProvenance settlementId db = true) .inconsistentProvenance

end LightningGoats
