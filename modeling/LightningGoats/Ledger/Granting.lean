import LightningGoats.Ledger.Books

/-! # Granting succeeds

A receipt that is due is granted whenever the new total fits the database, its
value the credit limit, and the balance the sats that are added.
-/

namespace LightningGoats

open Outcome Relational

theorem sqlSum_of_nonneg {values : List Int} (nonneg : ∀ value ∈ values, 0 ≤ value)
    (fits : values.sum ≤ maxI64) : sqlSum values = .ok values.sum :=
  sqlSum_eq_ok.mpr (CheckedSum.sum_of_nonneg (by decide) nonneg fits)

section Granting

variable {db : Db} {intent : XmrCreditIntent} {allocation : AllocationRow}
  {receiptId : Nat} {receipt : AssetReceipt} {update : CreditUpdate}

theorem XmrCreditIntent.quotedXmr_ok (intent : XmrCreditIntent) :
    CreditTerms.quotedXmr intent.quote.terms.expectedAtomic intent.quote.terms.targetSats =
      .ok intent.quote.terms :=
  CreditTerms.quotedXmr_eq_ok.mpr ⟨intent.quote.isXmr, rfl, rfl⟩

/-- The watermarks of a sound account, as the numbers that are read of them. -/
theorem AccountSound.read_eq (sound : AccountSound db intent allocation)
    (limited : intent.Limited) :
    (allocation.read.eligibleAtomic : Int) = allocation.eligibleAtomic ∧
      (allocation.read.creditedSats : Int) = allocation.creditedSats ∧
      allocation.read.eligibleAtomic ≤ maxAccountingUnits ∧
      allocation.read.creditedSats ≤ maxAccountingUnits := by
  have eligible := Int.toNat_of_nonneg sound.nonneg
  have credited := Int.toNat_of_nonneg sound.credited_nonneg
  have bounded := sound.bounded
  have capped := sound.capped
  have limit := limited.2
  refine ⟨eligible, credited, ?_, ?_⟩
  · simp only [AllocationRow.read]
    omega
  · simp only [AllocationRow.read]
    omega

theorem AccountSound.valued (sound : AccountSound db intent allocation)
    (limited : intent.Limited) (fits : allocation.read.eligibleAtomic ≤ maxAccountingUnits) :
    intent.quote.terms.cumulativeSats ⟨.xmr, allocation.read.eligibleAtomic, fits⟩ =
      .ok allocation.read.creditedSats := by
  rcases sound.read_eq limited with ⟨eligible, credited, _, creditedFits⟩
  have worth := sound.worth
  rw [← eligible, CreditTerms.value_natCast, ← credited] at worth
  exact CreditTerms.cumulativeSats_eq_ok.mpr
    ⟨intent.quote.isXmr.symm, Int.ofNat.inj worth, creditedFits⟩

theorem AccountSound.watermarksAgree_ok (sound : AccountSound db intent allocation)
    (limited : intent.Limited) :
    watermarksAgree intent.quote.terms allocation.read
      (grantedAmounts (xmrId intent.id) db).sum (grantedDeltas (xmrId intent.id) db).sum =
        .ok true := by
  rcases sound.read_eq limited with ⟨eligible, credited, eligibleFits, creditedFits⟩
  have eligibleI64 : toI64 allocation.read.eligibleAtomic "allocation" =
      .ok (allocation.read.eligibleAtomic : Int) := toI64_eq_ok.mpr ⟨eligibleFits, rfl⟩
  have creditedI64 : toI64 allocation.read.creditedSats "allocation" =
      .ok (allocation.read.creditedSats : Int) := toI64_eq_ok.mpr ⟨creditedFits, rfl⟩
  have amount : AssetAmount.new .xmr allocation.read.eligibleAtomic = _ :=
    AssetAmount.new_of eligibleFits
  have sameAtomic : (grantedAmounts (xmrId intent.id) db).sum =
      allocation.read.eligibleAtomic := by rw [← sound.total, eligible]
  have sameSats : (grantedDeltas (xmrId intent.id) db).sum =
      allocation.read.creditedSats := by rw [← sound.deltas, credited]
  rw [watermarksAgree, eligibleI64, creditedI64, amount]
  simp only [sameAtomic, sameSats, ne_eq, not_true_eq_false, bind, Except.bind, if_false,
    liftCredit, mapError_ok, pure, Except.pure, sound.valued limited eligibleFits,
    Except.toOption, decide_true]

theorem AccountSound.nextUpdate_ok (sound : AccountSound db intent allocation)
    (limited : intent.Limited) {units : Nat}
    (fits : allocation.eligibleAtomic + units ≤ maxAccountingUnits)
    (capped : intent.quote.terms.value (allocation.eligibleAtomic + units) ≤
      intent.maxCreditSats) :
    ∃ update, nextUpdate intent.quote.terms allocation.read units
      intent.stored.maxCreditSats = some update := by
  rcases sound.read_eq limited with ⟨eligible, credited, eligibleFits, creditedFits⟩
  have newFits : allocation.read.eligibleAtomic + units ≤ maxAccountingUnits := by omega
  let worth := (allocation.read.eligibleAtomic + units) * intent.quote.terms.targetSats /
    intent.quote.terms.expectedAtomic
  have isWorth : intent.quote.terms.value (allocation.eligibleAtomic + units) = worth := by
    rw [← eligible, ← Int.natCast_add, CreditTerms.value_natCast]
  have worthLe : worth ≤ intent.maxCreditSats := by omega
  have limit := limited.2
  have grows : allocation.read.creditedSats ≤ worth := by
    have older := sound.worth
    rw [← credited, ← eligible] at older
    refine Int.ofNat_le.mp ?_
    rw [older, ← isWorth, ← eligible]
    exact Watermark.share_mono (Int.natCast_nonneg _)
      (Int.natCast_pos.mpr intent.quote.terms.expectedPositive) (by omega)
  have unwrapped : asU64 intent.stored.maxCreditSats = intent.maxCreditSats := by
    have stored : intent.stored.maxCreditSats = (intent.maxCreditSats : Int) := rfl
    have small : maxAccountingUnits < 2 ^ 64 := by decide
    rw [stored, asU64]
    omega
  refine ⟨⟨⟨.xmr, _, newFits⟩, worth, worth - allocation.read.creditedSats⟩,
    nextUpdate_eq_some.mpr ⟨newFits, by rw [unwrapped]; exact worthLe, _, _,
      AssetAmount.new_of eligibleFits, AssetAmount.new_of newFits, ?_⟩⟩
  refine CreditTerms.assessUpdate_eq_ok.mpr ⟨sound.valued limited eligibleFits,
    CreditTerms.cumulativeSats_eq_ok.mpr ⟨intent.quote.isXmr.symm, rfl, ?_⟩,
    Nat.le_add_right _ _, grows, rfl, rfl⟩
  exact Nat.le_trans worthLe limit

theorem receiptEntry_fresh (books : Books db) {valuation : Valuation} {deltaSats : Int}
    (ungranted : ∀ grant ∈ db.creditGrants.rows, grant.receiptId ≠ receiptId) :
    db.ledgerEntries.Fresh (receiptEntry valuation receiptId deltaSats) := by
  intro entry member clashes
  rcases sameKey_iff.mp clashes with ⟨key, entryKey, newKey⟩
  have sameKey : entry.sourceKey = receiptKey receiptId :=
    Option.some.inj (entryKey.trans newKey.symm)
  cases books.counterparts entry member with
  | settlement row _ isEntry =>
      subst isEntry
      exact paymentKey_ne_receiptKey _ _ _ sameKey
  | debit attempt _ _ isEntry =>
      subst isEntry
      exact feedKey_ne_receiptKey _ _ sameKey
  | grant grant valuation granted isEntry =>
      subst isEntry
      exact ungranted grant granted (receiptKey_inj.mp sameKey)

theorem grant_fresh (tables : CreditTables db) {ledgerEntryId eventSeq : Option Nat}
    (ungranted : ∀ grant ∈ db.creditGrants.rows, grant.receiptId ≠ receiptId)
    (newEntry : ∀ entryId ∈ ledgerEntryId, db.ledgerEntries.sequence < entryId)
    (newEvent : ∀ seq ∈ eventSeq, db.eventLog.sequence < seq) :
    db.creditGrants.Fresh (update.grant receiptId ledgerEntryId eventSeq) := by
  rintro grant member (receipts | entries | events)
  · rcases sameKey_iff.mp receipts with ⟨id, oldId, newId⟩
    exact ungranted grant member (Option.some.inj (oldId.trans newId.symm))
  · rcases sameKey_iff.mp entries with ⟨entryId, oldId, newId⟩
    have booked := tables.booked grant member entryId oldId
    have isNew := newEntry entryId newId
    omega
  · rcases sameKey_iff.mp events with ⟨seq, oldSeq, newSeq⟩
    have announced := tables.announced grant member seq oldSeq
    have isNew := newEvent seq newSeq
    omega

theorem commitGrant_ok (books : Books db) (tables : CreditTables db)
    (sound : AccountSound db intent allocation) (credit : Nat) {terms : CreditTerms}
    (due : GrantDue db intent.id intent.stored allocation receiptId receipt terms update)
    (positive : 0 < receipt.amountAtomic)
    (fits : update.cumulativeCreditSats ≤ maxAccountingUnits) :
    ∃ after, commitGrant (xmrId intent.id) intent.stored receiptId update
      (credit + update.deltaSats) db = .ok after := by
  have eligible := due.eligible
  have delta := due.delta
  have eligibleNonneg := sound.nonneg
  have creditedNonneg := sound.credited_nonneg
  have eligibleI64 : ∀ field, toI64 update.cumulativeEligible.atomicUnits field =
      .ok (update.cumulativeEligible.atomicUnits : Int) := fun _ =>
    toI64_eq_ok.mpr ⟨update.cumulativeEligible.bounded, rfl⟩
  have creditedI64 : ∀ field, toI64 update.cumulativeCreditSats field =
      .ok (update.cumulativeCreditSats : Int) := fun _ => toI64_eq_ok.mpr ⟨fits, rfl⟩
  have deltaI64 : ∀ field, toI64 update.deltaSats field = .ok (update.deltaSats : Int) :=
    fun _ => toI64_eq_ok.mpr ⟨by omega, rfl⟩
  have raised : (0 : Int) < update.cumulativeEligible.atomicUnits := by omega
  have within : (update.deltaSats : Int) ≤ update.cumulativeCreditSats := by omega
  have raises : ∀ row ∈ db.creditAllocations.rows, row.valuationId = xmrId intent.id →
      (row.eligibleAtomic ≤ update.cumulativeEligible.atomicUnits ∧
        row.creditedSats ≤ update.cumulativeCreditSats) ∧
      (0 : Int) ≤ update.cumulativeEligible.atomicUnits ∧
        (0 : Int) ≤ update.cumulativeCreditSats := by
    intro row member same
    have isAllocation : row = allocation :=
      db.creditAllocations.row_eq_of_clash member due.allocated
        (sameKey_iff.mpr ⟨_, rfl, by rw [same, due.allocatedId]⟩)
    subst isAllocation
    exact ⟨⟨by omega, by omega⟩, Int.natCast_nonneg _, Int.natCast_nonneg _⟩
  simp only [commitGrant, bind_eq_ok, Prod.exists, eligibleI64, creditedI64, deltaI64,
    insertRow_eq_ok, setAllocation_eq_ok, announceGrant]
  by_cases sats : 0 < update.deltaSats
  · have entryFresh : db.ledgerEntries.Fresh
        (receiptEntry intent.stored receiptId update.deltaSats) :=
      receiptEntry_fresh books due.ungranted
    have grantFresh : db.creditGrants.Fresh (update.grant receiptId
        (some db.ledgerEntries.nextRowid) (some db.eventLog.nextRowid)) :=
      grant_fresh tables due.ungranted (by rintro _ ⟨⟩; exact Nat.lt_succ_self _)
        (by rintro _ ⟨⟩; exact Nat.lt_succ_self _)
    simp only [if_pos sats, bind_eq_ok, Prod.exists, insertRow_eq_ok]
    exact ⟨_, _, _, _, ⟨_, rfl, _, _, ⟨trivial, rfl, entryFresh, rfl⟩, rfl⟩, _, rfl, _, rfl, _,
      rfl, _, _, ⟨⟨Int.natCast_nonneg _, raised, within,
        .inr ⟨Int.natCast_pos.mpr sats, rfl⟩⟩, rfl, grantFresh, rfl⟩, raises, rfl⟩
  · have dust : (update.deltaSats : Int) = 0 := by omega
    have grantFresh : db.creditGrants.Fresh (update.grant receiptId none none) :=
      grant_fresh tables due.ungranted (by simp) (by simp)
    simp only [if_neg sats]
    exact ⟨_, _, _, _, rfl, _, rfl, _, rfl, _, rfl, _, _, ⟨⟨Int.natCast_nonneg _, raised, within,
      .inl ⟨dust, rfl, rfl⟩⟩, rfl, grantFresh, rfl⟩, raises, rfl⟩

theorem grantReceipt_ok (books : Books db) (tables : CreditTables db)
    (sound : AccountSound db intent allocation) (limited : intent.Limited)
    (grantable : Grantable db intent.id intent.stored allocation receiptId receipt)
    {observation : XmrReceiptObservation}
    (amount : receipt.amountAtomic = observation.amount.atomicUnits)
    (positive : 0 < receipt.amountAtomic) :
    ((∃ grant ∈ db.creditGrants.rows, grant.receiptId = receiptId) →
      grantReceipt (xmrId intent.id) intent.stored allocation.read observation receiptId db =
        .ok (.duplicate, db)) ∧
    ((∀ grant ∈ db.creditGrants.rows, grant.receiptId ≠ receiptId) →
      allocation.eligibleAtomic + receipt.amountAtomic ≤ maxAccountingUnits →
      intent.quote.terms.value (allocation.eligibleAtomic + receipt.amountAtomic) ≤
        intent.maxCreditSats →
      creditTotal db + (intent.quote.terms.value
          (allocation.eligibleAtomic + receipt.amountAtomic) -
        intent.quote.terms.value allocation.eligibleAtomic) ≤ maxI64 →
      ∃ update credit after, grantReceipt (xmrId intent.id) intent.stored allocation.read
          observation receiptId db = .ok (.recorded update.deltaSats credit, after) ∧
        (GrantsDust intent.id receiptId update db after ∨
          GrantsSats intent.id receiptId update db after)) := by
  rcases sound.read_eq limited with ⟨eligible, credited, eligibleFits, creditedFits⟩
  have expected : toU64 intent.stored.expectedAtomic "quote amount" =
      .ok intent.quote.terms.expectedAtomic := toU64_eq_ok.mpr rfl
  have target : toU64 intent.stored.targetSats "quote credit" =
      .ok intent.quote.terms.targetSats := toU64_eq_ok.mpr rfl
  have limit := limited.2
  have bounded := sound.bounded
  have capped := sound.capped
  have amounts : sqlSum ((grantsOf (xmrId intent.id) db).map fun granted =>
      granted.2.amountAtomic) = .ok (grantedAmounts (xmrId intent.id) db).sum := by
    refine sqlSum_of_nonneg (fun value member => ?_) ?_
    · rcases List.mem_map.mp member with ⟨granted, isGranted, rfl⟩
      exact Int.le_of_lt (sound.positive granted isGranted)
    · exact Int.le_trans (Int.le_of_eq sound.total.symm) bounded
  have deltas : sqlSum ((grantsOf (xmrId intent.id) db).map fun granted =>
      granted.1.deltaSats) = .ok (grantedDeltas (xmrId intent.id) db).sum := by
    refine sqlSum_of_nonneg (fun value member => ?_) ?_
    · rcases List.mem_map.mp member with ⟨granted, isGranted, rfl⟩
      exact sound.rising granted isGranted
    · exact Int.le_trans (Int.le_of_eq sound.deltas.symm)
        (Int.le_trans capped (Int.ofNat_le.mpr limit))
  have unfolded : ∀ result, grantReceipt (xmrId intent.id) intent.stored allocation.read
      observation receiptId db = result ↔
        (if db.creditGrants.rows.any (fun grant => grant.receiptId = receiptId) = true then
          .ok (.duplicate, db)
        else (nextUpdate intent.quote.terms allocation.read observation.amount.atomicUnits
            intent.stored.maxCreditSats).elim
          (reportHeld (xmrId intent.id) observation .creditLimit db)
          fun update => do
            let before ← feedCreditInTransaction db
            if maxAccountingUnits < before + update.deltaSats then
              reportHeld (xmrId intent.id) observation .creditLimit db
            else do
              let feedCreditSats := before + update.deltaSats
              let granted ← commitGrant (xmrId intent.id) intent.stored receiptId update
                feedCreditSats db
              return (.recorded update.deltaSats feedCreditSats, granted)) = result := by
    intro result
    simp only [grantReceipt, expected, target, intent.quotedXmr_ok, liftCredit, mapError_ok,
      amounts, deltas, sound.watermarksAgree_ok limited, bind, Except.bind, Bool.true_eq_false,
      if_false]
    cases nextUpdate intent.quote.terms allocation.read observation.amount.atomicUnits
      intent.stored.maxCreditSats with
    | none => rfl
    | some update => rfl
  constructor
  · rintro ⟨grant, granted, same⟩
    rw [unfolded, if_pos (List.any_eq_true.mpr ⟨grant, granted, decide_eq_true same⟩)]
  · intro ungranted fits worthy room
    have notGranted : ¬ db.creditGrants.rows.any (fun grant => grant.receiptId = receiptId) =
        true := by
      simpa using ungranted
    rw [amount] at fits worthy room
    rcases sound.nextUpdate_ok limited fits worthy with ⟨update, next⟩
    have due := grantable.due ungranted rfl rfl amount next
    rcases books.readable with ⟨credit, read⟩
    have total := feedCredit_total read
    have delta := due.delta
    have worth := due.worth
    have older := sound.worth
    rw [amount] at worth
    have roomy : ¬ maxAccountingUnits < credit + update.deltaSats := by
      have isMax : maxI64 = maxAccountingUnits := rfl
      omega
    have updateFits : update.cumulativeCreditSats ≤ maxAccountingUnits := by omega
    rcases commitGrant_ok books tables sound credit due positive updateFits with
      ⟨after, committed⟩
    refine ⟨update, credit + update.deltaSats, after, ?_,
      commitGrant_cases due read (by omega) committed⟩
    rw [unfolded, if_neg notGranted, next]
    simp only [Option.elim_some, read, bind, Except.bind, if_neg roomy, committed]
    rfl

end Granting

end LightningGoats
