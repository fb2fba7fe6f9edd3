import LightningGoats.Ledger.Families

/-! # Observations of an intent over a run

Whatever the order and the repetitions in which the observations of a family
arrive, and whatever else happens in between, the credit of the intent is the
value of the total that has been seen unlocked in time.
-/

namespace LightningGoats

open Outcome Relational

/-! ## Calls on other parts of the ledger -/

structure SameAccount (id : String) (before after : Db) : Prop where
  valuations : ∀ valuation ∈ before.creditValuations.rows,
    valuation ∈ after.creditValuations.rows
  allocations : ∀ allocation ∈ before.creditAllocations.rows, allocation.valuationId = id →
    allocation ∈ after.creditAllocations.rows
  receipts : ∀ entry : Nat × AssetReceipt, entry.2.valuationId = id →
    (entry ∈ after.assetReceipts.entries ↔ entry ∈ before.assetReceipts.entries)
  grants : ∀ entry ∈ before.assetReceipts.entries, entry.2.valuationId = id →
    ((∃ grant ∈ after.creditGrants.rows, grant.receiptId = entry.1) ↔
      ∃ grant ∈ before.creditGrants.rows, grant.receiptId = entry.1)

namespace SameAccount

variable {id : String} {before middle after : Db}

theorem refl (id : String) (db : Db) : SameAccount id db db :=
  ⟨fun _ valued => valued, fun _ allocated _ => allocated, fun _ _ => Iff.rfl,
    fun _ _ _ => Iff.rfl⟩

theorem trans (first : SameAccount id before middle) (second : SameAccount id middle after) :
    SameAccount id before after where
  valuations valuation valued := second.valuations valuation (first.valuations valuation valued)
  allocations allocation allocated same :=
    second.allocations allocation (first.allocations allocation allocated same) same
  receipts entry same := (second.receipts entry same).trans (first.receipts entry same)
  grants entry stored same :=
    (second.grants entry ((first.receipts entry same).mpr stored) same).trans
      (first.grants entry stored same)

theorem of_eq (valuations : after.creditValuations = before.creditValuations)
    (allocations : after.creditAllocations = before.creditAllocations)
    (receipts : after.assetReceipts = before.assetReceipts)
    (grants : after.creditGrants = before.creditGrants) : SameAccount id before after where
  valuations := by rw [valuations]; exact fun _ valued => valued
  allocations := by rw [allocations]; exact fun _ allocated _ => allocated
  receipts := by rw [receipts]; exact fun _ _ => Iff.rfl
  grants := by rw [grants]; exact fun _ _ _ => Iff.rfl

theorem insert_receipts {receipt : AssetReceipt} (fresh : before.assetReceipts.Fresh receipt)
    (other : receipt.valuationId ≠ id) (entry : Nat × AssetReceipt)
    (same : entry.2.valuationId = id) :
    entry ∈ (before.assetReceipts.insert receipt fresh).entries ↔
      entry ∈ before.assetReceipts.entries := by
  rw [Table.mem_entries_insert fresh]
  constructor
  · rintro (old | rfl)
    · exact old
    · exact absurd same other
  · exact .inl

theorem insert_grants {grant : CreditGrant} {receipt : AssetReceipt}
    (fresh : before.creditGrants.Fresh grant)
    (stored : (grant.receiptId, receipt) ∈ before.assetReceipts.entries)
    (other : receipt.valuationId ≠ id) (entry : Nat × AssetReceipt)
    (isEntry : entry ∈ before.assetReceipts.entries) (same : entry.2.valuationId = id) :
    (∃ row ∈ (before.creditGrants.insert grant fresh).rows, row.receiptId = entry.1) ↔
      ∃ row ∈ before.creditGrants.rows, row.receiptId = entry.1 := by
  constructor
  · rintro ⟨row, member, isReceipt⟩
    rcases (Table.mem_rows_insert fresh).mp member with old | rfl
    · exact ⟨row, old, isReceipt⟩
    · rw [isReceipt] at stored
      have sameReceipt := before.assetReceipts.row_unique stored isEntry
      exact absurd (sameReceipt ▸ same) other
  · rintro ⟨row, member, isReceipt⟩
    exact ⟨row, Table.mem_rows_insert_old fresh member, isReceipt⟩

theorem raise_allocations {otherId : String} {eligible credited : Int} (other : otherId ≠ id)
    (allocation : AllocationRow) (allocated : allocation ∈ before.creditAllocations.rows)
    (same : allocation.valuationId = id) :
    allocation ∈ before.creditAllocations.rows.map
      (AllocationRow.setWatermarks otherId eligible credited) :=
  List.mem_map.mpr ⟨allocation, allocated, if_neg fun equal => other (equal.symm.trans same)⟩

end SameAccount

section Frame

variable {intentId : Uuid} {scope : Scope} {before after : Db}

theorem Quiet.sameAccount (quiet : Quiet scope before after)
    (other : scope ≠ .intent intentId) : SameAccount (xmrId intentId) before after := by
  have otherId : ∀ id, scope = .intent id → xmrId id ≠ xmrId intentId := by
    rintro id rfl same
    exact other (by rw [xmrId_inj.mp same])
  cases quiet with
  | registers registers =>
      cases registers with
      | intro _ valuationFresh allocationFresh =>
        exact { SameAccount.refl _ before with
          valuations := fun _ valued => Table.mem_rows_insert_old valuationFresh valued
          allocations := fun _ allocated _ =>
            Table.mem_rows_insert_old allocationFresh allocated }
  | holds _ holds =>
      cases holds with
      | intro conflicts =>
        refine { SameAccount.refl _ before with allocations := fun allocation allocated same => ?_ }
        simp only [holdAllocation, Table.rows_update]
        exact List.mem_map.mpr ⟨allocation, allocated,
          if_neg fun equal => otherId _ rfl (equal.symm.trans same)⟩
  | stores stores =>
      cases stores with
      | intro _ _ _ bound _ _ _ _ fresh =>
        exact { SameAccount.refl _ before with
          receipts := SameAccount.insert_receipts fresh fun same =>
            otherId _ rfl (bound.symm.trans same) }
  | @unlocks id receiptId receipt _ stored owned =>
      refine { SameAccount.refl _ before with receipts := fun entry same => ?_ }
      have unchanged : ∀ old ∈ before.assetReceipts.entries, old.2.valuationId = xmrId intentId →
          old.2.unlock receiptId old.1 = old.2 := by
        intro old oldStored sameId
        refine if_neg fun isReceipt => otherId id rfl ?_
        have alsoStored : (receiptId, old.2) ∈ before.assetReceipts.entries := by
          rw [← isReceipt]
          exact oldStored
        rw [← owned, ← before.assetReceipts.row_unique alsoStored stored, sameId]
      rw [entries_unlockReceipt]
      constructor
      · intro member
        rcases List.mem_map.mp member with ⟨old, oldStored, rfl⟩
        rw [AssetReceipt.unlock_valuationId] at same
        rw [unchanged old oldStored same]
        exact oldStored
      · intro member
        exact List.mem_map.mpr ⟨entry, member, by rw [unchanged entry member same]⟩
  | grantsDust grants =>
      cases grants with
      | intro due _ fresh =>
        have isOther := otherId _ rfl
        exact { SameAccount.refl _ before with
          allocations := fun allocation allocated same => by
            rw [CreditUpdate.allocations, Table.rows_update]
            exact SameAccount.raise_allocations isOther allocation allocated same
          grants := SameAccount.insert_grants fresh due.stored fun same =>
            isOther (due.storedId.symm.trans same) }
  | begins begins => cases begins; exact .of_eq rfl rfl rfl rfl
  | moves moves => cases moves; exact .of_eq rfl rfl rfl rfl
  | cools => exact .of_eq rfl rfl rfl rfl
  | logs logs => cases logs; exact .of_eq rfl rfl rfl rfl
  | strike => exact .of_eq rfl rfl rfl rfl

theorem Booking.sameAccount (booking : Booking scope before after)
    (other : scope ≠ .intent intentId) : SameAccount (xmrId intentId) before after := by
  cases booking with
  | settles settles =>
      cases settles with
      | @intro credit allocations _ _ _ _ valuationFresh _ allocationRows receiptFresh
          grantFresh =>
        have notXmr := (xmrId_ne_btcId intentId before.settledPayments.nextRowid).symm
        refine ⟨fun _ valued => Table.mem_rows_insert_old valuationFresh valued, ?_,
          SameAccount.insert_receipts receiptFresh notXmr, ?_⟩
        · intro allocation allocated _
          rw [allocationRows]
          exact List.mem_append_left _ allocated
        · intro entry stored _
          constructor
          · rintro ⟨row, member, isReceipt⟩
            rcases (Table.mem_rows_insert grantFresh).mp member with old | rfl
            · exact ⟨row, old, isReceipt⟩
            · have isNext : (before.assetReceipts.nextRowid, entry.2) ∈
                  before.assetReceipts.entries := by
                rw [show before.assetReceipts.nextRowid = entry.1 from isReceipt]
                exact stored
              exact absurd isNext (before.assetReceipts.nextRowid_not_mem _)
          · rintro ⟨row, member, isReceipt⟩
            exact ⟨row, Table.mem_rows_insert_old grantFresh member, isReceipt⟩
  | @grants id receiptId update _ _ grants =>
      have isOther : xmrId id ≠ xmrId intentId := fun same =>
        other (by rw [xmrId_inj.mp same])
      cases grants with
      | intro due _ _ _ _ fresh =>
        exact { SameAccount.refl _ before with
          allocations := fun allocation allocated same => by
            rw [CreditUpdate.allocations, Table.rows_update]
            exact SameAccount.raise_allocations isOther allocation allocated same
          grants := SameAccount.insert_grants fresh due.stored fun same =>
            isOther (due.storedId.symm.trans same) }
  | debits debits => cases debits; exact .of_eq rfl rfl rfl rfl
  | announces announces => cases announces; exact .of_eq rfl rfl rfl rfl

theorem Effect.sameAccount (effect : Effect scope before after)
    (other : scope ≠ .intent intentId) : SameAccount (xmrId intentId) before after := by
  rcases effect with ⟨middle, quiet, ending⟩
  have first : SameAccount (xmrId intentId) before middle := by
    clear ending
    induction quiet with
    | refl => exact .refl _ _
    | tail _ change induction => exact induction.trans (change.sameAccount other)
  rcases ending with rfl | booking
  · exact first
  · exact first.trans (booking.sameAccount other)

/-- A family state survives whatever leaves the account of its intent alone. -/
theorem FamilyState.of_same {family : ReceiptFamily} {intent : XmrCreditIntent}
    {unlocked eligible : Finset String}
    (state : FamilyState family intent unlocked eligible before)
    (same : SameAccount (xmrId intent.id) before after) :
    FamilyState family intent unlocked eligible after where
  valued := same.valuations _ state.valued
  account := by
    rcases state.account with ⟨allocation, allocated, sameId, facts⟩
    exact ⟨allocation, same.allocations allocation allocated sameId, sameId, facts⟩
  stored := by
    intro entry member sameId
    have wasStored := (same.receipts entry sameId).mp member
    have stored := state.stored entry wasStored sameId
    exact { stored with granted := (same.grants entry wasStored sameId).trans stored.granted }
  kept := by
    intro key member
    rcases state.kept key member with ⟨entry, stored, sameId, sameKey⟩
    exact ⟨entry, (same.receipts entry sameId).mpr stored, sameId, sameKey⟩
  within := state.within

end Frame

/-! ## One observation -/

def ReceiptFamily.eligible (family : ReceiptFamily) (intent : XmrCreditIntent)
    (unlocked : Finset String) : Finset String :=
  unlocked.filter (family.Timely intent.quote)

section Observation

variable {family : ReceiptFamily} {intent : XmrCreditIntent}
  {unlocked : Finset String} {db after : Db} {observation : XmrReceiptObservation}
  {allocation : AllocationRow}

theorem isTimely_stored (observes : family.Observes intent observation) :
    isTimely intent.stored observation =
      .ok (decide (family.Timely intent.quote observation.receiptKey)) := by
  have issued : intent.stored.issuedAt = some intent.quote.issuedAt := rfl
  have expires : intent.stored.expiresAt = some intent.quote.expiresAt := rfl
  rw [isTimely, issued, expires]
  simp only [ReceiptFamily.Timely, ← observes.firstSeen, require, bind, Except.bind, pure,
    Except.pure]
  split
  · rename_i early
    have late : ¬ (intent.quote.issuedAt ≤ observation.firstSeenAt ∧
        observation.firstSeenAt < intent.quote.expiresAt) := by omega
    rw [decide_eq_false late]
  · rename_i notEarly
    congr 1
    have reached : intent.quote.issuedAt ≤ observation.firstSeenAt := by omega
    simp [reached]

theorem observed_of_family (observes : family.Observes intent observation)
    (valued : intent.stored ∈ db.creditValuations.rows)
    (allocated : allocation ∈ db.creditAllocations.rows)
    (allocatedId : allocation.valuationId = xmrId intent.id)
    (sound : AccountSound db intent allocation) :
    Observed db intent.id observation intent.stored allocation where
  valid := by
    rcases observes.valid with ⟨amount, valid⟩
    rw [(validateObservation_eq_ok.mp valid).2.2.2.2] at valid
    exact valid
  valued := valued
  isId := rfl
  isXmr := rfl
  binds := observes.binds
  allocated := allocated
  allocatedId := allocatedId
  eligibleNonneg := sound.nonneg
  creditedNonneg := sound.credited_nonneg

theorem allocationInTx_eq {id : String} (allocated : allocation ∈ db.creditAllocations.rows)
    (allocatedId : allocation.valuationId = id) (eligibleNonneg : 0 ≤ allocation.eligibleAtomic)
    (creditedNonneg : 0 ≤ allocation.creditedSats) :
    allocationInTx id db = .ok allocation.read := by
  have found : db.creditAllocations.rows.find? (fun row => row.valuationId = id) =
      some allocation := by
    refine db.creditAllocations.find?_eq_some_of_clash _ allocated
      (by simp [allocatedId]) fun left right isLeft isRight => ?_
    exact sameKey_iff.mpr ⟨_, congrArg some (decide_eq_true_eq.mp isLeft),
      congrArg some (decide_eq_true_eq.mp isRight)⟩
  have eligible := Int.toNat_of_nonneg eligibleNonneg
  have credited := Int.toNat_of_nonneg creditedNonneg
  simp only [allocationInTx, bind_eq_ok, require_eq_ok, toU64_eq_ok, pure_eq_ok]
  exact ⟨_, found, _, eligible.symm, _, credited.symm, rfl⟩

theorem recordXmrReceipt_eq
    (observed : Observed db intent.id observation intent.stored allocation)
    (noConflict : storedConflict intent.id observation db = none) :
    recordXmrReceipt intent.id observation db =
      settleReceipt (xmrId intent.id) intent.stored allocation.read
        observation.amount.atomicUnits observation
        (findReceipt (xmrId intent.id) observation.receiptKey db) db := by
  have bound : boundValuation (xmrId intent.id) observation db = .ok intent.stored := by
    have found : db.creditValuations.rows.find? (fun row =>
        row.id = xmrId intent.id && row.asset = .xmr) = some intent.stored := by
      refine db.creditValuations.find?_eq_some_of_clash _ observed.valued
        (by simp [observed.isXmr, observed.isId]) fun left right isLeft isRight => ?_
      simp only [Bool.and_eq_true, decide_eq_true_eq] at isLeft isRight
      exact .inl (sameKey_iff.mpr ⟨_, congrArg some isLeft.1, congrArg some isRight.1⟩)
    simp only [boundValuation, bind_eq_ok, require_eq_ok, ensure_eq_ok, pure_eq_ok]
    exact ⟨_, found, .unit, rfl, .unit, observed.binds, rfl⟩
  have read := allocationInTx_eq observed.allocated observed.allocatedId
    observed.eligibleNonneg observed.creditedNonneg
  unfold storedConflict at noConflict
  rw [recordXmrReceipt, observed.valid]
  dsimp only [bind, Except.bind]
  rw [bound]
  dsimp only
  rw [read]
  dsimp only
  rw [noConflict]

/-- What settling does once the receipt of an allocation that is not held has
been stored. -/
theorem settleReceipt_eq {timely : Bool} {existing : Option (Nat × AssetReceipt)} {rowid : Nat}
    {stored : Db} (free : allocation.read.holdReason = none)
    (noDoubleSpend : observation.doubleSpendSeen = false)
    (checked : isTimely intent.stored observation = .ok timely)
    (isStored : storeReceipt (xmrId intent.id) observation.amount.atomicUnits observation timely
      existing db = .ok (rowid, stored)) :
    settleReceipt (xmrId intent.id) intent.stored allocation.read
        observation.amount.atomicUnits observation existing db =
      if timely = false then .ok (.held, readied observation rowid stored)
      else if observation.unlocked = false then .ok (.pending, readied observation rowid stored)
      else grantReceipt (xmrId intent.id) intent.stored allocation.read observation rowid
        (readied observation rowid stored) := by
  rw [settleReceipt, checked]
  simp only [bind, Except.bind, isStored, noDoubleSpend, free, Bool.false_eq_true, if_false,
    Option.isSome_none]
  rfl

/-- One observation of the family moves the ledger to the next family state. -/
theorem FamilyState.deliver
    (state : FamilyState family intent unlocked (family.eligible intent unlocked) db)
    (books : Books db) (sound : CreditSound db)
    (observes : family.Observes intent observation)
    (stays : observation.receiptKey ∈ unlocked → observation.unlocked = true)
    (fits : family.total (family.eligible intent (observation.unlocks unlocked)) ≤
      maxAccountingUnits)
    (worthy : intent.quote.terms.value
      (family.total (family.eligible intent (observation.unlocks unlocked))) ≤
        intent.maxCreditSats)
    (room : creditTotal db + (intent.quote.terms.value
        (family.total (family.eligible intent (observation.unlocks unlocked))) -
      intent.quote.terms.value (family.total (family.eligible intent unlocked))) ≤ maxI64) :
    ∃ outcome after, recordXmrReceipt intent.id observation db = .ok (outcome, after) ∧
      FamilyState family intent (observation.unlocks unlocked)
        (family.eligible intent (observation.unlocks unlocked)) after := by
  rcases state.account with ⟨allocation, allocated, sameId, free, isTotal⟩
  have account := sound.accounts intent state.valued allocation allocated sameId
  have observed := observed_of_family observes state.valued allocated sameId account
  have noConflict := state.noConflict observes stays
  have checked := isTimely_stored observes
  rcases state.ready sound.tables observes
    (decide (family.Timely intent.quote observation.receiptKey)) with
    ⟨rowid, stored, isStored, next⟩
  rw [recordXmrReceipt_eq observed noConflict,
    settleReceipt_eq free observes.noDoubleSpend checked isStored]
  by_cases timely : family.Timely intent.quote observation.receiptKey
  · cases isUnlocked : observation.unlocked with
    | false =>
        have same : observation.unlocks unlocked = unlocked := by
          simp [XmrReceiptObservation.unlocks, isUnlocked]
        rw [same] at next ⊢
        exact ⟨_, _, by rw [if_neg (by simpa using timely), if_pos rfl], next⟩
    | true =>
        have unlocksKey : observation.unlocks unlocked =
            Insert.insert observation.receiptKey unlocked := by
          simp [XmrReceiptObservation.unlocks, isUnlocked]
        have nowEligible : family.eligible intent (observation.unlocks unlocked) =
            Insert.insert observation.receiptKey (family.eligible intent unlocked) := by
          rw [unlocksKey, ReceiptFamily.eligible, Finset.filter_insert, if_pos timely]
          rfl
        have isTimely := decide_eq_true timely
        rcases readied_grantable observed free isTimely isUnlocked noConflict checked isStored with
          ⟨receipt, grantable, sameKey, sameAmount⟩
        rcases storeReceipt_owned isStored with ⟨_, receiptStored, owned⟩
        have readying : Effect (.intent intent.id) db (readied observation rowid stored) :=
          .quietly (readied_quietly state.valued rfl rfl checked
            (fun isDoubleSpend => by
              rw [observes.noDoubleSpend] at isDoubleSpend
              cases isDoubleSpend)
            (storeReceipt_keeps isStored) receiptStored owned)
        have nextSound := readying.invariant CreditSound.of_quiet CreditSound.of_booking sound
        have nextBooks := readying.invariant Books.of_quiet Books.of_booking books
        have nextAccount := nextSound.accounts intent grantable.valued allocation
          grantable.allocated grantable.allocatedId
        have receiptFacts := next.stored _ grantable.stored grantable.storedId
        have positive := nextSound.tables.positive receipt
          (Table.mem_rows_of_mem_entries grantable.stored)
        have limited := nextSound.tables.limited grantable.valued
        have granting := grantReceipt_ok nextBooks nextSound.tables nextAccount limited grantable
          sameAmount positive
        rw [if_neg (by simpa using timely), if_neg (by simp)]
        by_cases wasEligible : observation.receiptKey ∈ family.eligible intent unlocked
        · have sameEligible : family.eligible intent (observation.unlocks unlocked) =
              family.eligible intent unlocked := by
            rw [nowEligible, Finset.insert_eq_self.mpr wasEligible]
          rw [sameEligible]
          exact ⟨_, _, granting.1 (receiptFacts.granted.mpr (sameKey ▸ wasEligible)), next⟩
        · have newTotal : (family.total (family.eligible intent
              (observation.unlocks unlocked)) : Int) =
                allocation.eligibleAtomic + receipt.amountAtomic := by
            have amount := receiptFacts.amount
            dsimp only at amount
            rw [nowEligible, ReceiptFamily.total, Finset.sum_insert wasEligible, isTotal,
              amount, sameKey, ReceiptFamily.total]
            push_cast
            omega
          have ungranted : ∀ grant ∈ (readied observation rowid stored).creditGrants.rows,
              grant.receiptId ≠ rowid := fun grant granted same =>
            wasEligible (sameKey ▸ receiptFacts.granted.mp ⟨grant, granted, same⟩)
          have sameCredit : creditTotal (readied observation rowid stored) = creditTotal db := by
            rw [(storeReceipt_keeps isStored).readied_frame observation rowid]
            rfl
          rcases granting.2 ungranted (newTotal ▸ Int.ofNat_le.mpr fits)
            (newTotal ▸ worthy) (by rw [sameCredit, ← newTotal, isTotal]; exact room) with
            ⟨update, credit, after, granted, grants⟩
          refine ⟨_, after, granted, ?_⟩
          have isInUnlocked : receipt.receiptKey ∈ observation.unlocks unlocked :=
            receiptFacts.unlocked.mp grantable.unlocked
          have final := next.grant grantable.stored isInUnlocked (sameKey ▸ wasEligible) grants
          rw [sameKey, ← nowEligible] at final
          exact final
  · have sameEligible : family.eligible intent (observation.unlocks unlocked) =
        family.eligible intent unlocked := by
      unfold XmrReceiptObservation.unlocks ReceiptFamily.eligible
      split
      · rw [Finset.filter_insert, if_neg timely]
      · rfl
    rw [sameEligible]
    exact ⟨_, _, by rw [if_pos (decide_eq_false timely)], next⟩

end Observation

end LightningGoats
