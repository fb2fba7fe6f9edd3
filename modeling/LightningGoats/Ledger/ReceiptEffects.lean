import LightningGoats.Ledger.Effects

/-! # What the XMR calls can do

Recording a receipt has a dozen exits. They are taken apart phase by phase:
the observation is matched against what is stored, the receipt is stored and
unlocked, and a receipt that is due is granted.
-/

namespace LightningGoats

open Outcome Relational

/-! ## Intents -/

def XmrCreditIntent.stored (intent : XmrCreditIntent) : Valuation :=
  intent.valuation intent.quote.terms.expectedAtomic intent.quote.terms.targetSats
    intent.maxCreditSats

def XmrCreditIntent.Limited (intent : XmrCreditIntent) : Prop :=
  intent.quote.terms.targetSats ≤ intent.maxCreditSats ∧
    intent.maxCreditSats ≤ maxAccountingUnits

inductive Registers (intent : XmrCreditIntent) : Db → Db → Prop
  | intro {db : Db} (limited : intent.Limited)
      (valuationFresh : db.creditValuations.Fresh intent.stored)
      (allocationFresh : db.creditAllocations.Fresh ⟨xmrId intent.id, 0, 0, none⟩) :
      Registers intent db { db with
        creditValuations := db.creditValuations.insert intent.stored valuationFresh
        creditAllocations := db.creditAllocations.insert _ allocationFresh }

theorem registerXmrCreditIntent_cases {intent : XmrCreditIntent} {before after : Db}
    (ran : registerXmrCreditIntent intent before = .ok ((), after)) :
    (after = before ∧ intent.stored ∈ before.creditValuations.rows) ∨
      Registers intent before after := by
  simp only [registerXmrCreditIntent, registerXmrIntentInTransaction, bind_eq_ok,
    ensure_eq_ok, toI64_eq_ok, pure_eq_ok, Prod.mk.injEq, true_and] at ran
  rcases ran with ⟨_, ⟨_, _, _, _, _, _, _, _, _, _, _, _, _, limited, _, ⟨_, rfl⟩, _, ⟨_, rfl⟩,
    _, ⟨_, rfl⟩, ran⟩, rfl⟩
  split at ran
  · rename_i existing found
    simp only [bind_eq_ok, ensure_eq_ok, pure_eq_ok] at ran
    rcases ran with ⟨_, same, rfl⟩
    subst same
    exact .inl ⟨rfl, List.mem_of_find?_eq_some found⟩
  · rcases Valuation.insert_eq_ok.mp ran with ⟨_, valuationFresh, allocationFresh, rfl⟩
    exact .inr (.intro limited valuationFresh allocationFresh)

/-! ## Observations -/

def AllocationRow.read (row : AllocationRow) : CreditAllocation :=
  ⟨row.eligibleAtomic.toNat, row.creditedSats.toNat, row.holdReason⟩

/-- An observation of a registered intent, at the intent's own receive binding. -/
structure Observed (db : Db) (intentId : Uuid) (observation : XmrReceiptObservation)
    (valuation : Valuation) (allocation : AllocationRow) : Prop where
  valid : validateObservation observation = .ok (observation.amount.atomicUnits : Int)
  valued : valuation ∈ db.creditValuations.rows
  isId : valuation.id = xmrId intentId
  isXmr : valuation.asset = .xmr
  binds : observation.Binds valuation
  allocated : allocation ∈ db.creditAllocations.rows
  allocatedId : allocation.valuationId = xmrId intentId
  eligibleNonneg : 0 ≤ allocation.eligibleAtomic
  creditedNonneg : 0 ≤ allocation.creditedSats

theorem validateObservation_eq_ok {observation : XmrReceiptObservation} {amount : Int} :
    validateObservation observation = .ok amount ↔
      validateExternalId observation.receiptKey "receipt key" 256 = .ok .unit ∧
        observation.amount.asset = .xmr ∧ observation.amount.atomicUnits ≠ 0 ∧
        0 ≤ observation.firstSeenAt ∧ amount = observation.amount.atomicUnits := by
  simp only [validateObservation, bind_eq_ok, ensure_eq_ok, toI64_eq_ok]
  constructor
  · rintro ⟨_, key, _, ⟨isXmr, nonzero, seen⟩, _, rfl⟩
    exact ⟨key, isXmr, nonzero, seen, rfl⟩
  · rintro ⟨key, isXmr, nonzero, seen, rfl⟩
    exact ⟨_, key, .unit, ⟨isXmr, nonzero, seen⟩, observation.amount.bounded, rfl⟩

def storedConflict (intentId : Uuid) (observation : XmrReceiptObservation) (db : Db) :
    Option CreditHold :=
  (findReceipt (xmrId intentId) observation.receiptKey db).bind fun entry =>
    conflictReason entry.2 observation.amount.atomicUnits observation

theorem recordXmrReceipt_cases {intentId : Uuid} {observation : XmrReceiptObservation}
    {before after : Db} {outcome : CreditReceiptOutcome}
    (ran : recordXmrReceipt intentId observation before = .ok (outcome, after)) :
    ∃ valuation allocation, Observed before intentId observation valuation allocation ∧
      ((∃ reason, storedConflict intentId observation before = some reason ∧
          reportHeld (xmrId intentId) observation reason before = .ok (outcome, after)) ∨
        (storedConflict intentId observation before = none ∧
          settleReceipt (xmrId intentId) valuation allocation.read
            observation.amount.atomicUnits observation
            (findReceipt (xmrId intentId) observation.receiptKey before) before =
              .ok (outcome, after))) := by
  simp only [recordXmrReceipt, boundValuation, allocationInTx, bind_eq_ok, require_eq_ok,
    ensure_eq_ok, toU64_eq_ok, pure_eq_ok] at ran
  rcases ran with ⟨amount, valid, _, ⟨valuation, found, _, _, _, binds, rfl⟩, _,
    ⟨allocation, isAllocation, eligible, isEligible, credited, isCredited, rfl⟩, ran⟩
  have isAmount := (validateObservation_eq_ok.mp valid).2.2.2.2
  subst isAmount
  have selected := List.find?_some found
  simp only [Bool.and_eq_true, decide_eq_true_eq] at selected
  have allocatedId := List.find?_some isAllocation
  have isRead : allocation.read = ⟨eligible, credited, allocation.holdReason⟩ := by
    simp [AllocationRow.read, isEligible, isCredited]
  refine ⟨valuation, allocation, {
    valid := valid
    valued := List.mem_of_find?_eq_some found
    isId := selected.1
    isXmr := selected.2
    binds := binds
    allocated := List.mem_of_find?_eq_some isAllocation
    allocatedId := by simpa using allocatedId
    eligibleNonneg := by omega
    creditedNonneg := by omega }, ?_⟩
  rw [isRead]
  split at ran
  · rename_i reason conflict
    exact .inl ⟨reason, conflict, ran⟩
  · rename_i noConflict
    exact .inr ⟨noConflict, ran⟩

/-! ## Holds -/

inductive Holds (intentId : Uuid) (reason : CreditHold) : Db → Db → Prop
  | intro {db : Db} (conflicts : Table CreditConflict.Clash) :
      Holds intentId reason db
        (holdAllocation (xmrId intentId) reason { db with creditConflicts := conflicts }).1

theorem reportHeld_cases {intentId : Uuid} {observation : XmrReceiptObservation}
    {reason : CreditHold} {before after : Db} {outcome : CreditReceiptOutcome}
    (ran : reportHeld (xmrId intentId) observation reason before = .ok (outcome, after)) :
    outcome = .held ∧ Holds intentId reason before after := by
  simp only [reportHeld, bind_eq_ok, pure_eq_ok, Prod.mk.injEq] at ran
  rcases ran with ⟨_, held, rfl, rfl⟩
  rcases holdObservation_eq_ok held with ⟨conflicts, rfl⟩
  exact ⟨rfl, .intro conflicts⟩

theorem holdXmrCreditIntent_cases {intentId : Uuid} {before after : Db}
    (ran : holdXmrCreditIntent intentId before = .ok ((), after)) :
    Holds intentId .providerInconsistency before after := by
  simp only [holdXmrCreditIntent, bind_eq_ok, ensure_eq_ok, pure_eq_ok, Prod.mk.injEq,
    true_and] at ran
  rcases ran with ⟨_, _, rfl⟩
  exact .intro before.creditConflicts

/-! ## Storing and unlocking -/

def InWindow (valuation : Valuation) (firstSeenAt : Option Int) : Prop :=
  ∃ issued ∈ valuation.issuedAt, ∃ expires ∈ valuation.expiresAt,
    ∃ seen ∈ firstSeenAt, issued ≤ seen ∧ seen < expires

theorem isTimely_eq_ok {valuation : Valuation} {observation : XmrReceiptObservation}
    {timely : Bool} (checked : isTimely valuation observation = .ok timely) :
    timely = true ↔ InWindow valuation (some observation.firstSeenAt) := by
  simp only [isTimely, bind_eq_ok, require_eq_ok] at checked
  rcases checked with ⟨issued, isIssued, checked⟩
  split at checked
  · rename_i early
    cases checked
    constructor
    · intro impossible
      cases impossible
    · rintro ⟨other, isOther, _, _, seen, isSeen, after, _⟩
      rw [isIssued] at isOther
      cases isOther
      cases isSeen
      omega
  · rename_i notEarly
    simp only [bind_eq_ok, require_eq_ok, pure_eq_ok] at checked
    rcases checked with ⟨expires, isExpires, rfl⟩
    rw [decide_eq_true_eq]
    constructor
    · intro inTime
      exact ⟨issued, isIssued, expires, isExpires, _, rfl, by omega, inTime⟩
    · rintro ⟨_, _, other, isOther, seen, isSeen, _, inTime⟩
      rw [isExpires] at isOther
      cases isOther
      cases isSeen
      exact inTime

def Held (id : String) (db : Db) : Prop :=
  ∃ allocation ∈ db.creditAllocations.rows,
    allocation.valuationId = id ∧ allocation.holdReason.isSome = true

/-- A receipt is stored. It is eligible exactly when it is timely, unless its
allocation is held. -/
inductive Stores (intentId : Uuid) : Db → Db → Prop
  | intro {db : Db} {valuation : Valuation} {receipt : AssetReceipt}
      (valued : valuation ∈ db.creditValuations.rows)
      (isId : valuation.id = xmrId intentId) (isXmr : valuation.asset = .xmr)
      (bound : receipt.valuationId = xmrId intentId)
      (positive : 0 < receipt.amountAtomic)
      (notNative : receipt.btcSettlementId = none)
      (eligible : receipt.eligible = true → InWindow valuation receipt.firstSeenAt)
      (refused : receipt.eligible = false → InWindow valuation receipt.firstSeenAt →
        Held (xmrId intentId) db)
      (fresh : db.assetReceipts.Fresh receipt) :
      Stores intentId db { db with assetReceipts := db.assetReceipts.insert receipt fresh }

def XmrReceiptObservation.receipt (observation : XmrReceiptObservation) (id : String)
    (timely : Bool) : AssetReceipt where
  valuationId := id
  receiptKey := observation.receiptKey
  amountAtomic := observation.amount.atomicUnits
  firstSeenAt := some observation.firstSeenAt
  unlocked := observation.unlocked
  eligible := timely && !observation.doubleSpendSeen
  btcSettlementId := none

theorem storeReceipt_cases {id : String} {observation : XmrReceiptObservation} {timely : Bool}
    {existing : Option (Nat × AssetReceipt)} {before after : Db} {rowid : Nat}
    (ran : storeReceipt id observation.amount.atomicUnits observation timely existing before =
      .ok (rowid, after)) :
    (∃ entry, existing = some entry ∧ rowid = entry.1 ∧ after = before) ∨
      (existing = none ∧ rowid = before.assetReceipts.nextRowid ∧
        (observation.receipt id timely).Valid ∧
        ∃ fresh : before.assetReceipts.Fresh (observation.receipt id timely),
          after = { before with
            assetReceipts := before.assetReceipts.insert (observation.receipt id timely)
              fresh }) := by
  unfold storeReceipt at ran
  split at ran
  · rename_i entry
    cases ran
    exact .inl ⟨entry, rfl, rfl, rfl⟩
  · simp only [bind_eq_ok, pure_eq_ok, Prod.exists, insertRow_eq_ok, Prod.mk.injEq] at ran
    rcases ran with ⟨_, _, ⟨valid, rfl, fresh, rfl⟩, rfl, rfl⟩
    exact .inr ⟨rfl, rfl, valid, fresh, rfl⟩

/-- The database once the receipt of an observation is stored and unlocked. -/
def readied (observation : XmrReceiptObservation) (rowid : Nat) (stored : Db) : Db :=
  if observation.unlocked = true then unlockReceipt rowid stored else stored

theorem settleReceipt_cases {id : String} {valuation : Valuation}
    {allocation : CreditAllocation} {amount : Int} {observation : XmrReceiptObservation}
    {existing : Option (Nat × AssetReceipt)} {before after : Db}
    {outcome : CreditReceiptOutcome}
    (ran : settleReceipt id valuation allocation amount observation existing before =
      .ok (outcome, after)) :
    ∃ timely rowid stored, isTimely valuation observation = .ok timely ∧
      storeReceipt id amount observation timely existing before = .ok (rowid, stored) ∧
      ((observation.doubleSpendSeen = true ∧
          reportHeld id observation .doubleSpend (readied observation rowid stored) =
            .ok (outcome, after)) ∨
        (observation.doubleSpendSeen = false ∧ after = readied observation rowid stored ∧
          (outcome = .held ∧ (allocation.holdReason.isSome = true ∨ timely = false) ∨
            outcome = .pending ∧ observation.unlocked = false)) ∨
        (observation.doubleSpendSeen = false ∧ allocation.holdReason = none ∧
          timely = true ∧ observation.unlocked = true ∧
          grantReceipt id valuation allocation observation rowid
            (readied observation rowid stored) = .ok (outcome, after))) := by
  simp only [settleReceipt, bind_eq_ok, Prod.exists] at ran
  rcases ran with ⟨timely, checked, rowid, stored, isStored, ran⟩
  refine ⟨timely, rowid, stored, checked, isStored, ?_⟩
  split at ran
  · rename_i doubleSpend
    exact .inl ⟨doubleSpend, ran⟩
  · rename_i noDoubleSpend
    rw [Bool.not_eq_true] at noDoubleSpend
    split at ran
    · rename_i held
      cases ran
      exact .inr (.inl ⟨noDoubleSpend, rfl, .inl ⟨rfl, .inl held⟩⟩)
    · rename_i free
      split at ran
      · rename_i late
        cases ran
        exact .inr (.inl ⟨noDoubleSpend, rfl, .inl ⟨rfl, .inr late⟩⟩)
      · rename_i inTime
        split at ran
        · rename_i locked
          cases ran
          exact .inr (.inl ⟨noDoubleSpend, rfl, .inr ⟨rfl, locked⟩⟩)
        · rename_i unlocked
          exact .inr (.inr ⟨noDoubleSpend, by simpa using free, by simpa using inTime,
            by simpa using unlocked, ran⟩)

/-! ## Granting -/

theorem asU64_natCast_le (value : Nat) : asU64 (value : Int) ≤ value := by
  unfold asU64
  omega

/-- A receipt of an intent is due for the grant that an update calls for. -/
structure GrantDue (db : Db) (intentId : Uuid) (valuation : Valuation)
    (allocation : AllocationRow) (receiptId : Nat) (receipt : AssetReceipt)
    (terms : CreditTerms) (update : CreditUpdate) : Prop where
  valued : valuation ∈ db.creditValuations.rows
  isId : valuation.id = xmrId intentId
  isXmr : valuation.asset = .xmr
  allocated : allocation ∈ db.creditAllocations.rows
  allocatedId : allocation.valuationId = xmrId intentId
  free : allocation.holdReason = none
  stored : (receiptId, receipt) ∈ db.assetReceipts.entries
  storedId : receipt.valuationId = xmrId intentId
  unlocked : receipt.unlocked = true
  timely : InWindow valuation receipt.firstSeenAt
  ungranted : ∀ grant ∈ db.creditGrants.rows, grant.receiptId ≠ receiptId
  expected : valuation.expectedAtomic = terms.expectedAtomic
  target : valuation.targetSats = terms.targetSats
  eligible : (update.cumulativeEligible.atomicUnits : Int) =
    allocation.eligibleAtomic + receipt.amountAtomic
  worth : (update.cumulativeCreditSats : Int) =
    terms.value (allocation.eligibleAtomic + receipt.amountAtomic)
  delta : (update.deltaSats : Int) = update.cumulativeCreditSats - allocation.creditedSats
  capped : update.cumulativeCreditSats ≤ asU64 valuation.maxCreditSats

def CreditUpdate.grant (update : CreditUpdate) (receiptId : Nat)
    (ledgerEntryId eventSeq : Option Nat) : CreditGrant :=
  ⟨receiptId, update.deltaSats, update.cumulativeEligible.atomicUnits,
    update.cumulativeCreditSats, ledgerEntryId, eventSeq⟩

def CreditUpdate.allocations (update : CreditUpdate) (id : String) (db : Db) :
    Table AllocationRow.Clash :=
  db.creditAllocations.update (AllocationRow.setWatermarks id
    update.cumulativeEligible.atomicUnits update.cumulativeCreditSats)
    fun left right => SameKey.of_preserved (by simp) (by simp)

def grantEvent (valuation : Valuation) (deltaSats feedCreditSats : Nat) : Event :=
  ⟨"payment_received", [("amount_sats", .number deltaSats),
    ("feed_credit_sats", .number feedCreditSats),
    ("address_user", .string valuation.addressUser),
    ("credit_pool", .string valuation.creditPool)]⟩

inductive GrantsDust (intentId : Uuid) (receiptId : Nat) (update : CreditUpdate) :
    Db → Db → Prop
  | intro {db : Db} {valuation : Valuation} {allocation : AllocationRow}
      {receipt : AssetReceipt} {terms : CreditTerms}
      (due : GrantDue db intentId valuation allocation receiptId receipt terms update)
      (dust : update.deltaSats = 0)
      (grantFresh : db.creditGrants.Fresh (update.grant receiptId none none)) :
      GrantsDust intentId receiptId update db { db with
        creditGrants := db.creditGrants.insert _ grantFresh
        creditAllocations := update.allocations (xmrId intentId) db }

inductive GrantsSats (intentId : Uuid) (receiptId : Nat) (update : CreditUpdate) :
    Db → Db → Prop
  | intro {db : Db} {valuation : Valuation} {allocation : AllocationRow}
      {receipt : AssetReceipt} {terms : CreditTerms} {credit : Nat}
      (due : GrantDue db intentId valuation allocation receiptId receipt terms update)
      (positive : 0 < update.deltaSats)
      (read : feedCreditInTransaction db = .ok credit)
      (room : credit + update.deltaSats ≤ maxAccountingUnits)
      (entryFresh : db.ledgerEntries.Fresh (receiptEntry valuation receiptId update.deltaSats))
      (grantFresh : db.creditGrants.Fresh (update.grant receiptId
        (some db.ledgerEntries.nextRowid) (some db.eventLog.nextRowid))) :
      GrantsSats intentId receiptId update db { db with
        ledgerEntries := db.ledgerEntries.insert _ entryFresh
        eventLog := db.eventLog.insert
          (grantEvent valuation update.deltaSats (credit + update.deltaSats))
          (noClash_fresh _ _)
        creditGrants := db.creditGrants.insert _ grantFresh
        creditAllocations := update.allocations (xmrId intentId) db }

theorem commitGrant_cases {intentId : Uuid} {valuation : Valuation}
    {allocation : AllocationRow} {receiptId : Nat} {receipt : AssetReceipt}
    {terms : CreditTerms} {update : CreditUpdate} {credit : Nat} {before after : Db}
    (due : GrantDue before intentId valuation allocation receiptId receipt terms update)
    (read : feedCreditInTransaction before = .ok credit)
    (room : credit + update.deltaSats ≤ maxAccountingUnits)
    (ran : commitGrant (xmrId intentId) valuation receiptId update
      (credit + update.deltaSats) before = .ok after) :
    GrantsDust intentId receiptId update before after ∨
      GrantsSats intentId receiptId update before after := by
  simp only [commitGrant, bind_eq_ok, Prod.exists, toI64_eq_ok, insertRow_eq_ok,
    setAllocation_eq_ok] at ran
  rcases ran with ⟨ledgerId, eventSeq, announced, isAnnounced, _, ⟨_, rfl⟩, _, ⟨_, rfl⟩, _,
    ⟨_, rfl⟩, _, _, ⟨_, rfl, grantFresh, rfl⟩, _, rfl⟩
  unfold announceGrant at isAnnounced
  split at isAnnounced
  · rename_i positive
    simp only [bind_eq_ok, Prod.exists, toI64_eq_ok, insertRow_eq_ok, pure_eq_ok,
      Prod.mk.injEq] at isAnnounced
    rcases isAnnounced with ⟨_, ⟨_, rfl⟩, _, _, ⟨_, rfl, entryFresh, rfl⟩, ⟨rfl, rfl⟩, rfl⟩
    exact .inr (.intro due positive read room entryFresh grantFresh)
  · rename_i nonpositive
    cases isAnnounced
    exact .inl (.intro due (by omega) grantFresh)

/-- The watermarks agree exactly when they are the totals of the grants and the
credit is what the terms make of the eligible amount. -/
theorem watermarksAgree_iff {terms : CreditTerms} {allocation : CreditAllocation}
    {atomic sats : Int} {agree : Bool}
    (checked : watermarksAgree terms allocation atomic sats = .ok agree) :
    agree = true ↔ atomic = allocation.eligibleAtomic ∧ sats = allocation.creditedSats ∧
      ∃ amount, AssetAmount.new .xmr allocation.eligibleAtomic = .ok amount ∧
        terms.cumulativeSats amount = .ok allocation.creditedSats := by
  simp only [watermarksAgree, bind_eq_ok, toI64_eq_ok] at checked
  rcases checked with ⟨_, ⟨_, rfl⟩, checked⟩
  split at checked
  · rename_i different
    cases checked
    simp [different]
  · rename_i sameAtomic
    simp only [bind_eq_ok, toI64_eq_ok] at checked
    rcases checked with ⟨_, ⟨_, rfl⟩, checked⟩
    split at checked
    · rename_i different
      cases checked
      simp [different]
    · rename_i sameSats
      simp only [bind_eq_ok, liftCredit_eq_ok, pure_eq_ok] at checked
      rcases checked with ⟨amount, built, rfl⟩
      simp only [decide_eq_true_eq]
      constructor
      · intro valued
        refine ⟨by omega, by omega, amount, built, ?_⟩
        cases evaluated : terms.cumulativeSats amount with
        | error error => simp [evaluated, Except.toOption] at valued
        | ok value => simpa [evaluated, Except.toOption] using valued
      · rintro ⟨_, _, other, isOther, valued⟩
        rw [built] at isOther
        cases isOther
        simp [valued, Except.toOption]

theorem toOption_eq_some {ε α : Type} {outcome : Except ε α} {value : α} :
    outcome.toOption = some value ↔ outcome = .ok value := by
  cases outcome <;> simp [Except.toOption]

theorem nextUpdate_eq_some {terms : CreditTerms} {allocation : CreditAllocation}
    {units : Nat} {maxCreditSats : Int} {update : CreditUpdate} :
    nextUpdate terms allocation units maxCreditSats = some update ↔
      allocation.eligibleAtomic + units ≤ maxAccountingUnits ∧
        update.cumulativeCreditSats ≤ asU64 maxCreditSats ∧
        ∃ previous current, AssetAmount.new .xmr allocation.eligibleAtomic = .ok previous ∧
          AssetAmount.new .xmr (allocation.eligibleAtomic + units) = .ok current ∧
          terms.assessUpdate previous allocation.creditedSats current = .ok update := by
  unfold nextUpdate
  split
  · rename_i fits
    simp only [Option.filter_eq_some_iff, Option.bind_eq_some_iff, toOption_eq_some,
      decide_eq_true_eq]
    constructor
    · rintro ⟨⟨previous, isPrevious, current, isCurrent, assessed⟩, capped⟩
      exact ⟨fits, capped, previous, current, isPrevious, isCurrent, assessed⟩
    · rintro ⟨_, capped, previous, current, isPrevious, isCurrent, assessed⟩
      exact ⟨⟨previous, isPrevious, current, isCurrent, assessed⟩, capped⟩
  · rename_i overflow
    simp [overflow]

/-- The evidence for an allocation mismatch: the stored watermarks are not the
totals of the grants, or not what the terms make of them. -/
def Misaligned (valuation : Valuation) (allocation : AllocationRow) (db : Db) : Prop :=
  ∃ terms atomic sats, (terms.expectedAtomic : Int) = valuation.expectedAtomic ∧
    (terms.targetSats : Int) = valuation.targetSats ∧ terms.asset = .xmr ∧
    sqlSum ((grantsOf valuation.id db).map fun granted => granted.2.amountAtomic) =
      .ok atomic ∧
    sqlSum ((grantsOf valuation.id db).map fun granted => granted.1.deltaSats) = .ok sats ∧
    watermarksAgree terms allocation.read atomic sats = .ok false

/-- A receipt that may be granted: it is stored, unlocked and timely, and its
allocation is not held. -/
structure Grantable (db : Db) (intentId : Uuid) (valuation : Valuation)
    (allocation : AllocationRow) (receiptId : Nat) (receipt : AssetReceipt) : Prop where
  valued : valuation ∈ db.creditValuations.rows
  isId : valuation.id = xmrId intentId
  isXmr : valuation.asset = .xmr
  allocated : allocation ∈ db.creditAllocations.rows
  allocatedId : allocation.valuationId = xmrId intentId
  eligibleNonneg : 0 ≤ allocation.eligibleAtomic
  creditedNonneg : 0 ≤ allocation.creditedSats
  free : allocation.holdReason = none
  stored : (receiptId, receipt) ∈ db.assetReceipts.entries
  storedId : receipt.valuationId = xmrId intentId
  unlocked : receipt.unlocked = true
  timely : InWindow valuation receipt.firstSeenAt

theorem Grantable.due {db : Db} {intentId : Uuid} {valuation : Valuation}
    {allocation : AllocationRow} {receiptId : Nat} {receipt : AssetReceipt}
    {terms : CreditTerms} {update : CreditUpdate} {units : Nat}
    (grantable : Grantable db intentId valuation allocation receiptId receipt)
    (ungranted : ∀ grant ∈ db.creditGrants.rows, grant.receiptId ≠ receiptId)
    (expected : (terms.expectedAtomic : Int) = valuation.expectedAtomic)
    (target : (terms.targetSats : Int) = valuation.targetSats)
    (amount : receipt.amountAtomic = units)
    (next : nextUpdate terms allocation.read units valuation.maxCreditSats = some update) :
    GrantDue db intentId valuation allocation receiptId receipt terms update := by
  rcases nextUpdate_eq_some.mp next with ⟨_, capped, previous, current, _, isCurrent, assessed⟩
  rcases CreditTerms.assessUpdate_eq_ok.mp assessed with
    ⟨_, currentValued, _, grows, isCumulative, isDelta⟩
  have units := (AssetAmount.new_eq_ok.mp isCurrent).2
  have worth := (CreditTerms.cumulativeSats_eq_ok.mp currentValued).2.1
  have eligible : ((allocation.eligibleAtomic.toNat : Nat) : Int) =
      allocation.eligibleAtomic := Int.toNat_of_nonneg grantable.eligibleNonneg
  have credited : ((allocation.creditedSats.toNat : Nat) : Int) =
      allocation.creditedSats := Int.toNat_of_nonneg grantable.creditedNonneg
  simp only [AllocationRow.read] at units isDelta grows
  exact {
    valued := grantable.valued
    isId := grantable.isId
    isXmr := grantable.isXmr
    allocated := grantable.allocated
    allocatedId := grantable.allocatedId
    free := grantable.free
    stored := grantable.stored
    storedId := grantable.storedId
    unlocked := grantable.unlocked
    timely := grantable.timely
    ungranted := ungranted
    expected := expected.symm
    target := target.symm
    eligible := by rw [isCumulative]; omega
    worth := by
      have sum : allocation.eligibleAtomic + receipt.amountAtomic =
          ((current.atomicUnits : Nat) : Int) := by omega
      rw [sum, CreditTerms.value_natCast, worth]
    delta := by omega
    capped := capped }

theorem grantReceipt_cases {intentId : Uuid} {valuation : Valuation}
    {allocation : AllocationRow} {observation : XmrReceiptObservation} {receiptId : Nat}
    {receipt : AssetReceipt} {before after : Db} {outcome : CreditReceiptOutcome}
    (grantable : Grantable before intentId valuation allocation receiptId receipt)
    (amount : receipt.amountAtomic = observation.amount.atomicUnits)
    (ran : grantReceipt (xmrId intentId) valuation allocation.read observation receiptId
      before = .ok (outcome, after)) :
    (outcome = .held ∧ Holds intentId .allocationMismatch before after ∧
        Misaligned valuation allocation before) ∨
      (outcome = .duplicate ∧ after = before ∧
        ∃ grant ∈ before.creditGrants.rows, grant.receiptId = receiptId) ∨
      (outcome = .held ∧ Holds intentId .creditLimit before after) ∨
      (∃ delta credit update, outcome = .recorded delta credit ∧
        (GrantsDust intentId receiptId update before after ∨
          GrantsSats intentId receiptId update before after)) := by
  simp only [grantReceipt, bind_eq_ok, toU64_eq_ok, liftCredit_eq_ok] at ran
  rcases ran with ⟨_, expected, _, target, terms, built, atomic, isAtomic, sats, isSats, agree,
    checked, ran⟩
  have parts := CreditTerms.quotedXmr_eq_ok.mp built
  rw [← parts.2.1] at expected
  rw [← parts.2.2] at target
  have sameId := grantable.isId
  split at ran
  · rename_i disagree
    subst disagree
    rcases reportHeld_cases ran with ⟨isHeld, holds⟩
    exact .inl ⟨isHeld, holds, terms, atomic, sats, expected.symm, target.symm, parts.1,
      by rw [sameId]; exact isAtomic, by rw [sameId]; exact isSats, checked⟩
  · split at ran
    · rename_i granted
      cases ran
      refine .inr (.inl ⟨rfl, rfl, ?_⟩)
      simpa using granted
    · rename_i notGranted
      have ungranted : ∀ grant ∈ before.creditGrants.rows, grant.receiptId ≠ receiptId := by
        simpa using notGranted
      split at ran
      · exact .inr (.inr (.inl (reportHeld_cases ran)))
      · rename_i update next
        simp only [bind_eq_ok] at ran
        rcases ran with ⟨credit, read, ran⟩
        split at ran
        · exact .inr (.inr (.inl (reportHeld_cases ran)))
        · rename_i room
          simp only [bind_eq_ok, pure_eq_ok, Prod.mk.injEq] at ran
          rcases ran with ⟨_, committed, rfl, rfl⟩
          have due := grantable.due ungranted expected.symm target.symm amount next
          exact .inr (.inr (.inr ⟨_, _, update, rfl,
            commitGrant_cases due read (by omega) committed⟩))

end LightningGoats
