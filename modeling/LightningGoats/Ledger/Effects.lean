import LightningGoats.Ledger.Store

/-! # What the calls of the ledger can do

Every successful call is a few quiet changes, which touch neither the ledger
entries nor the announced balance, possibly followed by one booking, which
changes or announces the balance. The lemmas here say so once; the invariants
are then proved change by change.
-/

namespace LightningGoats

open Outcome Relational

/-! ## Specifications of the statements -/

theorem Valuation.insert_eq_ok {valuation : Valuation} {before after : Db} :
    valuation.insert before = .ok after ↔
      valuation.Valid ∧
        ∃ (valuationFresh : before.creditValuations.Fresh valuation)
          (allocationFresh : before.creditAllocations.Fresh ⟨valuation.id, 0, 0, none⟩),
          after = { before with
            creditValuations := before.creditValuations.insert valuation valuationFresh
            creditAllocations := before.creditAllocations.insert _ allocationFresh } := by
  simp only [Valuation.insert, bind_eq_ok, pure_eq_ok, Prod.exists, insertRow_eq_ok]
  constructor
  · rintro ⟨_, _, ⟨valid, rfl, valuationFresh, rfl⟩, _, _, ⟨_, rfl, allocationFresh, rfl⟩, rfl⟩
    exact ⟨valid, valuationFresh, allocationFresh, rfl⟩
  · rintro ⟨valid, valuationFresh, allocationFresh, rfl⟩
    exact ⟨_, _, ⟨valid, rfl, valuationFresh, rfl⟩, _, _,
      ⟨⟨Int.le_refl _, Int.le_refl _⟩, rfl, allocationFresh, rfl⟩, rfl⟩

theorem setAllocation_eq_ok {id : String} {eligible credited : Int} {before after : Db} :
    setAllocation id eligible credited before = .ok after ↔
      (∀ row ∈ before.creditAllocations.rows, row.valuationId = id →
        (row.eligibleAtomic ≤ eligible ∧ row.creditedSats ≤ credited) ∧
          0 ≤ eligible ∧ 0 ≤ credited) ∧
        after = { before with
          creditAllocations :=
            before.creditAllocations.update (AllocationRow.setWatermarks id eligible credited)
              fun left right => SameKey.of_preserved (by simp) (by simp) } := by
  simp only [setAllocation, bind_eq_ok, ensure_eq_ok, pure_eq_ok]
  constructor
  · rintro ⟨_, monotone, _, nonneg, rfl⟩
    exact ⟨fun row member same => ⟨monotone row member same, nonneg row member same⟩, rfl⟩
  · rintro ⟨holds, rfl⟩
    exact ⟨.unit, fun row member same => (holds row member same).1, .unit,
      fun row member same => (holds row member same).2, rfl⟩

theorem holdObservation_eq_ok {id : String} {observation : XmrReceiptObservation}
    {reason : CreditHold} {before after : Db}
    (held : holdObservation id observation reason before = .ok after) :
    ∃ conflicts, after =
      (holdAllocation id reason { before with creditConflicts := conflicts }).1 := by
  simp only [holdObservation, bind_eq_ok, pure_eq_ok] at held
  rcases held with ⟨_, _, rfl⟩
  exact ⟨_, rfl⟩

/-- The XMR amounts of the ledger fit the database, so an observation can
always be kept. -/
theorem holdObservation_ok (id : String) (observation : XmrReceiptObservation)
    (reason : CreditHold) (db : Db) :
    ∃ after, holdObservation id observation reason db = .ok after := by
  have fits : toI64 observation.amount.atomicUnits "conflict amount" =
      .ok (observation.amount.atomicUnits : Int) :=
    toI64_eq_ok.mpr ⟨observation.amount.bounded, rfl⟩
  exact ⟨_, by simp only [holdObservation, fits, bind_eq_ok]; exact ⟨_, rfl, rfl⟩⟩

/-! ## Settling a payment -/

namespace SettledPayment

def sats (payment : SettledPayment) : Nat :=
  payment.amountMsat / 1000

def settledRow (payment : SettledPayment) : SettledPaymentRow :=
  payment.row payment.amountMsat

def settledEntry (payment : SettledPayment) : LedgerEntry :=
  payment.entry payment.sats

def settledGrant (payment : SettledPayment) (receiptId ledgerId eventSeq : Nat) :
    CreditGrant :=
  ⟨receiptId, payment.sats, payment.sats, payment.sats, some ledgerId, some eventSeq⟩

/-- The amount is a positive whole number of sats that the database can hold,
and the source cannot be confused with the separator of keys. -/
structure Creditable (payment : SettledPayment) : Prop where
  sourceFree : ':' ∉ payment.source.toList
  positive : 0 < payment.amountMsat
  aligned : payment.amountMsat % 1000 = 0
  bounded : payment.amountMsat ≤ maxAccountingUnits

theorem Creditable.sats_pos {payment : SettledPayment} (creditable : payment.Creditable) :
    0 < payment.sats := by
  have positive := creditable.positive
  have aligned := creditable.aligned
  unfold sats
  omega

theorem Creditable.sats_le {payment : SettledPayment} (creditable : payment.Creditable) :
    payment.sats ≤ maxAccountingUnits :=
  Nat.le_trans (Nat.div_le_self _ _) creditable.bounded

theorem settledRow_amountMsat_div (payment : SettledPayment) :
    payment.settledRow.amountMsat / 1000 = payment.sats := by
  simp [settledRow, row, sats]

end SettledPayment

/-- A payment is settled: its row, its entry with the event that announces the
new balance, and its provenance are added together. -/
inductive Settles (payment : SettledPayment) : Db → Db → Prop
  | intro {db : Db} {credit : Nat} {allocations : Table AllocationRow.Clash}
      (creditable : payment.Creditable)
      (rowFresh : db.settledPayments.Fresh payment.settledRow)
      (entryFresh : db.ledgerEntries.Fresh payment.settledEntry)
      (read : feedCreditInTransaction { db with
        ledgerEntries := db.ledgerEntries.insert payment.settledEntry entryFresh } = .ok credit)
      (valuationFresh : db.creditValuations.Fresh
        (btcValuation db.settledPayments.nextRowid payment.settledRow))
      (allocationFresh : db.creditAllocations.Fresh
        ⟨btcId db.settledPayments.nextRowid, 0, 0, none⟩)
      (allocationRows : allocations.rows = db.creditAllocations.rows ++
        [⟨btcId db.settledPayments.nextRowid, payment.sats, payment.sats, none⟩])
      (receiptFresh : db.assetReceipts.Fresh
        (btcReceipt db.settledPayments.nextRowid payment.settledRow payment.sats))
      (grantFresh : db.creditGrants.Fresh (payment.settledGrant db.assetReceipts.nextRowid
        db.ledgerEntries.nextRowid db.eventLog.nextRowid)) :
      Settles payment db { db with
        settledPayments := db.settledPayments.insert payment.settledRow rowFresh
        ledgerEntries := db.ledgerEntries.insert payment.settledEntry entryFresh
        eventLog := db.eventLog.insert
          ⟨"payment_received", payment.announcement payment.sats credit⟩ (noClash_fresh _ _)
        creditValuations := db.creditValuations.insert
          (btcValuation db.settledPayments.nextRowid payment.settledRow) valuationFresh
        creditAllocations := allocations
        assetReceipts := db.assetReceipts.insert
          (btcReceipt db.settledPayments.nextRowid payment.settledRow payment.sats) receiptFresh
        creditGrants := db.creditGrants.insert (payment.settledGrant
          db.assetReceipts.nextRowid db.ledgerEntries.nextRowid db.eventLog.nextRowid)
          grantFresh }

@[simp] theorem liftCredit_eq_ok {α : Type} {outcome : Except CreditError α} {value : α} :
    liftCredit outcome = .ok value ↔ outcome = .ok value := by
  exact mapError_eq_ok

/-- Raising the watermarks of an allocation that has just been added changes no
other allocation. -/
theorem rows_setWatermarks_insert {table : Table AllocationRow.Clash} {id : String}
    {eligible credited : Int} (fresh : table.Fresh ⟨id, 0, 0, none⟩) :
    (table.insert ⟨id, 0, 0, none⟩ fresh).rows.map
        (AllocationRow.setWatermarks id eligible credited) =
      table.rows ++ [⟨id, eligible, credited, none⟩] := by
  rw [Table.rows_insert, List.map_append]
  congr 1
  · conv => rhs; rw [← List.map_id table.rows]
    refine List.map_congr_left fun row member => ?_
    have different : row.valuationId ≠ id := fun same =>
      fresh row member (sameKey_iff.mpr ⟨id, by rw [same], rfl⟩)
    simp [AllocationRow.setWatermarks, different]
  · simp [AllocationRow.setWatermarks]

theorem nativeBtc_assess {sats : Nat} {nothing everything : AssetAmount}
    {update : CreditUpdate} (all : AssetAmount.new .btc sats = .ok everything)
    (assessed : CreditTerms.nativeBtc.assessUpdate nothing 0 everything = .ok update) :
    update.deltaSats = sats := by
  rcases CreditTerms.assessUpdate_eq_ok.mp assessed with ⟨_, valued, _, _, _, delta⟩
  have worth := (CreditTerms.cumulativeSats_eq_ok.mp valued).2.1
  rw [delta, worth, (AssetAmount.new_eq_ok.mp all).2]
  simp [CreditTerms.nativeBtc]

theorem settlePayment_eq_ok {payment : SettledPayment} {before after : Db}
    (creditable : payment.Creditable)
    (settled : settlePayment payment payment.amountMsat payment.sats payment.sats before =
      .ok after) :
    Settles payment before after := by
  simp only [settlePayment, bind_eq_ok, Prod.exists, insertRow_eq_ok] at settled
  rcases settled with ⟨_, _, ⟨_, rfl, rowFresh, rfl⟩, _, _, ⟨_, rfl, entryFresh, rfl⟩,
    credit, read, recorded⟩
  simp only [recordNativeBtc, bind_eq_ok, require_eq_ok, ensure_eq_ok, liftCredit_eq_ok,
    Prod.exists, insertRow_eq_ok, Valuation.insert_eq_ok, setAllocation_eq_ok,
    toI64_eq_ok] at recorded
  rcases recorded with ⟨row, found, _, _, amount, amountNew, sats, native, nothing, nothingNew,
    everything, everythingNew, update, assessed, valued,
    ⟨_, valuationFresh, allocationFresh, rfl⟩, _, ⟨_, rfl⟩, _, _, ⟨_, rfl, receiptFresh, rfl⟩,
    _, ⟨_, rfl⟩, _, _, ⟨_, rfl, grantFresh, rfl⟩, _, rfl⟩
  have isRow : row = payment.settledRow := by
    have stored := Table.get?_insert_self before.settledPayments payment.settledRow rowFresh
    exact Option.some.inj (found.symm.trans stored)
  have isSats : sats = payment.sats := by
    have units := (AssetAmount.new_eq_ok.mp amountNew).2
    rw [isRow, payment.settledRow_amountMsat_div] at units
    simp only [AssetAmount.nativeSats] at native
    split at native
    · cases native
      simpa using units
    · cases native
  have isDelta : update.deltaSats = payment.sats :=
    isSats ▸ nativeBtc_assess everythingNew assessed
  subst isRow isSats
  cases update with
  | mk cumulative credited delta =>
      dsimp only at isDelta
      subst isDelta
      refine .intro creditable rowFresh entryFresh read valuationFresh allocationFresh ?_
        receiptFresh grantFresh
      exact (Table.rows_update _ _ _).trans (rows_setWatermarks_insert allocationFresh)

theorem validatePayment_creditable [SerdeJson] {payment : SettledPayment} {result : Unit}
    (valid : validatePayment payment = .ok result)
    (bounded : payment.amountMsat ≤ maxAccountingUnits) : payment.Creditable := by
  simp only [validatePayment, bind_eq_ok, ensure_eq_ok] at valid
  rcases valid with ⟨_, source, _, _, _, _, _, _, _, _, _, nonzero, _, aligned, _⟩
  exact ⟨colon_not_mem_source source, Nat.pos_of_ne_zero nonzero, aligned, bounded⟩

/-- A recorded payment was either settled before, with its provenance intact,
or is settled now. -/
theorem recordPayment_cases [SerdeJson] {payment : SettledPayment} {before after : Db}
    {outcome : SettlementOutcome}
    (ran : recordPayment payment before = .ok (outcome, after)) :
    validatePayment payment = .ok .unit ∧ payment.Creditable ∧
      ((outcome = .duplicate ∧ after = before ∧
          ∃ existing, findSettlement payment.source payment.sourceId before = some existing ∧
            payment.Redelivers payment.amountMsat existing.2) ∨
        (outcome = .credited payment.sats payment.addressUser payment.creditPool ∧
          findSettlement payment.source payment.sourceId before = none ∧
          Settles payment before after)) := by
  simp only [recordPayment, bind_eq_ok, toI64_eq_ok] at ran
  rcases ran with ⟨_, valid, _, ⟨bounded, rfl⟩, _, ⟨_, rfl⟩, ran⟩
  have creditable := validatePayment_creditable valid bounded
  refine ⟨valid, creditable, ?_⟩
  split at ran
  · rename_i existing found
    split at ran
    · rename_i redelivers
      simp only [bind_eq_ok, pure_eq_ok, Prod.mk.injEq] at ran
      rcases ran with ⟨_, _, rfl, rfl⟩
      exact .inl ⟨rfl, rfl, existing, found, redelivers⟩
    · cases ran
  · rename_i absent
    simp only [bind_eq_ok, pure_eq_ok, Prod.mk.injEq] at ran
    rcases ran with ⟨_, _, _, settled, rfl, rfl⟩
    exact .inr ⟨rfl, absent, settlePayment_eq_ok creditable settled⟩

/-! ## Feed attempts -/

inductive MovesAttempts : Db → Db → Prop
  | intro {db : Db} (update : AttemptUpdate)
      (unconfirmed : ∀ attempt, (update.assign attempt).status ≠ .confirmed) :
      MovesAttempts db (updateAttempts update db).1

/-- An attempt is begun on a covered threshold while no other is unresolved. -/
inductive Begins (thresholdSats : Nat) (drawn : Uuid) (now : Int) : Db → Db → Prop
  | intro {db : Db} {credit : Nat} (positive : 0 < thresholdSats)
      (bounded : thresholdSats ≤ maxAccountingUnits) (idle : findUnresolved db = none)
      (cooled : db.feederCooldown ≤ now)
      (read : feedCreditInTransaction db = .ok credit) (covered : thresholdSats ≤ credit)
      (fresh : db.feedAttempts.Fresh
        { id := drawn, status := .intentCommitted, thresholdSats := thresholdSats }) :
      Begins thresholdSats drawn now db
        { db with feedAttempts := db.feedAttempts.insert _ fresh }

theorem beginFeedAttempt_cases {thresholdSats : Nat} {drawn : Uuid} {now : Int}
    {before after : Db} {id : Option Uuid}
    (ran : beginFeedAttempt thresholdSats drawn now before = .ok (id, after)) :
    (id = none ∧ after = before) ∨
      (id = some drawn ∧ Begins thresholdSats drawn now before after) := by
  simp only [beginFeedAttempt, bind_eq_ok, ensure_eq_ok, toI64_eq_ok] at ran
  rcases ran with ⟨_, nonzero, _, ⟨bounded, rfl⟩, ran⟩
  split at ran
  · cases ran
  · rename_i idle
    split at ran
    · cases ran
      exact .inl ⟨rfl, rfl⟩
    · rename_i cooled
      simp only [bind_eq_ok] at ran
      rcases ran with ⟨credit, read, ran⟩
      split at ran
      · cases ran
        exact .inl ⟨rfl, rfl⟩
      · rename_i covered
        simp only [bind_eq_ok, pure_eq_ok, Prod.exists, insertRow_eq_ok, Prod.mk.injEq] at ran
        rcases ran with ⟨_, _, ⟨_, rfl, fresh, rfl⟩, rfl, rfl⟩
        exact .inr ⟨rfl, .intro (Nat.pos_of_ne_zero nonzero) bounded idle (by omega) read
          (by omega) fresh⟩

/-- An unresolved attempt is confirmed: its debit is booked, and the balance
that remains is announced. -/
inductive Debits (id : Uuid) (now : Int) : Db → Db → Prop
  | intro {db : Db} {attempt : FeedAttempt} {expected : FeedAttemptStatus}
      {covering credit : Nat} (unresolved : expected.isUnresolved = true)
      (member : attempt ∈ db.feedAttempts.rows)
      (selected : isAttempt id expected attempt = true)
      (nonneg : 0 ≤ attempt.thresholdSats)
      (covers : feedCreditInTransaction db = .ok covering)
      (covered : attempt.thresholdSats ≤ covering)
      (entryFresh : db.ledgerEntries.Fresh (debitEntry id attempt.thresholdSats))
      (read : feedCreditInTransaction { db with
        ledgerEntries := db.ledgerEntries.insert (debitEntry id attempt.thresholdSats)
          entryFresh } = .ok credit) :
      Debits id now db { db with
        feedAttempts := db.feedAttempts.update
          (AttemptUpdate.fed id expected unresolved now).apply
          (AttemptUpdate.fed id expected unresolved now).clash_of_apply
        ledgerEntries := db.ledgerEntries.insert (debitEntry id attempt.thresholdSats)
          entryFresh
        eventLog := db.eventLog.insert ⟨"feeder_confirmed",
          [("feed_attempt_id", .string id.toText),
            ("threshold_sats", .number attempt.thresholdSats),
            ("feed_credit_sats", .number credit)]⟩ (noClash_fresh _ _) }

theorem resolveAsFed_cases {id : Uuid} {expected : FeedAttemptStatus}
    {unresolved : expected.isUnresolved = true} {now : Int} {before after : Db}
    (ran : resolveAsFed id expected unresolved now before = .ok ((), after)) :
    Debits id now before after := by
  simp only [resolveAsFed, bind_eq_ok, require_eq_ok, toU64_eq_ok, ensure_eq_ok,
    Prod.exists, insertRow_eq_ok, pure_eq_ok, Prod.mk.injEq, true_and] at ran
  rcases ran with ⟨attempt, found, threshold, nonneg, covering, covers, _, covered, _, _, _, _,
    ⟨rfl, entryFresh, rfl⟩, credit, read, rfl⟩
  have member := List.mem_of_find?_eq_some found
  have selected := List.find?_some found
  rw [appendEvent_db, ← nonneg]
  exact .intro unresolved member selected (by omega) covers (by omega) entryFresh read

inductive Announces : Db → Db → Prop
  | intro {db : Db} {credit : Nat} {event : Event}
      (read : feedCreditInTransaction db = .ok credit)
      (announced : event.feedCreditSats? = some (credit : Int))
      (reconciled : event.eventType = "feed_reconciled_not_fed") :
      Announces db { db with eventLog := db.eventLog.insert event (noClash_fresh _ _) }

inductive Logs : Db → Db → Prop
  | intro {db : Db} {event : Event} (silent : event.feedCreditSats? = none)
      (carriesNone : event.carriesBalance = false) :
      Logs db { db with eventLog := db.eventLog.insert event (noClash_fresh _ _) }

theorem exists_of_affected {update : AttemptUpdate} {db : Db}
    (one : (updateAttempts update db).2 = 1) :
    ∃ attempt ∈ db.feedAttempts.rows, update.selected attempt = true := by
  rcases List.length_eq_one_iff.mp one with ⟨attempt, only⟩
  have member : attempt ∈ db.feedAttempts.rows.filter update.selected := by
    rw [only]
    exact List.mem_singleton_self _
  exact ⟨attempt, List.mem_filter.mp member⟩

theorem markInterrupted_cases {before after : Db} {count : Nat}
    (ran : markInterruptedFeedIntentsUnknown before = .ok (count, after)) :
    after = (updateAttempts .interrupted before).1 ∨
      Logs (updateAttempts .interrupted before).1 after := by
  simp only [markInterruptedFeedIntentsUnknown] at ran
  split at ran
  · cases ran
    exact .inr (.intro rfl rfl)
  · cases ran
    exact .inl rfl

theorem markFeedUnknown_cases {id : Uuid} {error : String} {before after : Db}
    (ran : markFeedUnknown id error before = .ok ((), after)) :
    Logs (updateAttempts (.unconfirmed id (truncateError error)) before).1 after := by
  simp only [markFeedUnknown, bind_eq_ok, ensure_eq_ok, pure_eq_ok, Prod.mk.injEq,
    true_and] at ran
  rcases ran with ⟨_, _, rfl⟩
  exact .intro rfl rfl

theorem reconcileNotFed_cases {id : Uuid} {now : Int} {before after : Db}
    (ran : reconcileUnknownAsNotFed id now before = .ok ((), after)) :
    Announces (updateAttempts (.notFed id now) before).1 after := by
  simp only [reconcileUnknownAsNotFed, bind_eq_ok, ensure_eq_ok, pure_eq_ok, Prod.mk.injEq,
    true_and] at ran
  rcases ran with ⟨_, _, credit, read, rfl⟩
  exact .intro read rfl rfl

theorem resolveNotDispatched_cases {id : Uuid} {retryAfterSeconds : Nat} {now : Int}
    {before after : Db}
    (ran : resolveFeedNotDispatched id retryAfterSeconds now before = .ok ((), after)) :
    (∃ attempt ∈ before.feedAttempts.rows, attempt.id = id ∧
        attempt.status.isUnresolved = true) ∧
      Logs { (updateAttempts (.notDispatched id now) before).1 with
        feederCooldown := max before.feederCooldown (now + retryAfterSeconds) } after := by
  simp only [resolveFeedNotDispatched, bind_eq_ok, ensure_eq_ok, pure_eq_ok, Prod.mk.injEq,
    true_and] at ran
  rcases ran with ⟨_, _, _, one, rfl⟩
  rcases exists_of_affected one with ⟨attempt, member, selected⟩
  have parts := Bool.and_eq_true_iff.mp selected
  exact ⟨⟨attempt, member, decide_eq_true_eq.mp parts.1, parts.2⟩, .intro rfl rfl⟩

end LightningGoats
