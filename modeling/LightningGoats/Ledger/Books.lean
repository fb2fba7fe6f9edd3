import LightningGoats.Ledger.Accounts

/-! # The balance and its counterparts

Every ledger entry is the counterpart of a settlement, of a confirmed attempt
or of a grant, and each of these has its entry. The balance is therefore what
was settled plus what XMR allocations credit less what confirmed attempts cost.
-/

namespace LightningGoats

open Outcome Relational

/-! ## The sums -/

def settledSats (db : Db) : Int :=
  (db.settledPayments.rows.map fun row => row.amountMsat / 1000).sum

def isXmrAllocation (db : Db) (allocation : AllocationRow) : Bool :=
  db.creditValuations.rows.any fun valuation =>
    valuation.id = allocation.valuationId && valuation.asset = .xmr

def xmrSats (db : Db) : Int :=
  ((db.creditAllocations.rows.filter (isXmrAllocation db)).map AllocationRow.creditedSats).sum

def fedSats (db : Db) : Int :=
  ((db.feedAttempts.rows.filter fun attempt => attempt.status = .confirmed).map
    FeedAttempt.thresholdSats).sum

def isXmrKey (id : String) : Bool :=
  id.toList.take 4 = "xmr:".toList

theorem isXmrKey_xmrId (id : Uuid) : isXmrKey (xmrId id) = true := by
  simp [isXmrKey, xmrId, Text.toList_joined]

theorem isXmrKey_btcId (settlementId : Nat) : isXmrKey (btcId settlementId) = false := by
  simp [isXmrKey, btcId, Text.toList_joined]

def AllocationRow.xmrCredit (allocation : AllocationRow) : Int :=
  if isXmrKey allocation.valuationId then allocation.creditedSats else 0

def FeedAttempt.cost (attempt : FeedAttempt) : Int :=
  if attempt.status = .confirmed then attempt.thresholdSats else 0

theorem xmrSats_eq {db : Db} (tables : CreditTables db) :
    xmrSats db = (db.creditAllocations.rows.map AllocationRow.xmrCredit).sum := by
  rw [xmrSats, sum_filter_map]
  congr 1
  refine List.map_congr_left fun allocation member => ?_
  have isXmr : isXmrAllocation db allocation = isXmrKey allocation.valuationId := by
    rcases tables.valuation_of_allocation member with ⟨valuation, valued, same⟩
    cases asset : valuation.asset with
    | xmr =>
        rcases tables.quoted valuation valued asset with ⟨intent, _, isStored⟩
        have tagged : isXmrKey allocation.valuationId = true := by
          rw [← same, isStored]
          exact isXmrKey_xmrId intent.id
        rw [tagged, isXmrAllocation, List.any_eq_true]
        exact ⟨valuation, valued, by simp [same, asset]⟩
    | btc =>
        rcases tables.native valuation valued asset with ⟨settlementId, _, _, isNative⟩
        have tagged : isXmrKey allocation.valuationId = false := by
          rw [← same, isNative]
          exact isXmrKey_btcId settlementId
        rw [tagged, isXmrAllocation, List.any_eq_false]
        intro other otherValued selected
        simp only [Bool.and_eq_true, decide_eq_true_eq] at selected
        have equal : other = valuation := db.creditValuations.row_eq_of_clash otherValued valued
          (.inl (sameKey_iff.mpr ⟨_, rfl, by rw [same, selected.1]⟩))
        rw [equal, asset] at selected
        cases selected.2
  rw [AllocationRow.xmrCredit, isXmr]

theorem fedSats_eq (db : Db) : fedSats db = (db.feedAttempts.rows.map FeedAttempt.cost).sum := by
  rw [fedSats, sum_filter_map]
  simp only [decide_eq_true_eq]
  rfl

/-! ## Entries and their counterparts -/

def SettledPaymentRow.entry (row : SettledPaymentRow) : LedgerEntry where
  entryType := "HERD_RECEIPT"
  sourceKey := paymentKey row.source row.sourceId
  deltaSats := row.amountMsat / 1000
  paymentHash := row.paymentHash
  paymentSource := some row.source
  paymentSourceId := some row.sourceId
  addressUser := some row.addressUser
  creditPool := some row.creditPool

theorem SettledPayment.settledEntry_eq (payment : SettledPayment) :
    payment.settledEntry = payment.settledRow.entry := by
  simp [settledEntry, SettledPayment.entry, SettledPaymentRow.entry, settledRow, row, sats]

def FeedAttempt.debit (attempt : FeedAttempt) : LedgerEntry :=
  debitEntry attempt.id attempt.thresholdSats

inductive Counterpart (db : Db) (entry : LedgerEntry) : Prop
  | settlement (row : SettledPaymentRow) (settled : row ∈ db.settledPayments.rows)
      (isEntry : entry = row.entry)
  | debit (attempt : FeedAttempt) (attempted : attempt ∈ db.feedAttempts.rows)
      (confirmed : attempt.status = .confirmed) (isEntry : entry = attempt.debit)
  | grant (grant : CreditGrant) (valuation : Valuation)
      (granted : grant ∈ db.creditGrants.rows)
      (isEntry : entry = receiptEntry valuation grant.receiptId grant.deltaSats)

theorem Counterpart.mono {before after : Db} {entry : LedgerEntry} (counterpart : Counterpart before entry)
    (settlements : ∀ row ∈ before.settledPayments.rows, row ∈ after.settledPayments.rows)
    (attempts : ∀ attempt ∈ before.feedAttempts.rows, attempt.status = .confirmed →
      attempt ∈ after.feedAttempts.rows)
    (grants : ∀ grant ∈ before.creditGrants.rows, grant ∈ after.creditGrants.rows) :
    Counterpart after entry := by
  cases counterpart with
  | settlement row settled isEntry => exact .settlement row (settlements row settled) isEntry
  | debit attempt attempted confirmed isEntry =>
    exact .debit attempt (attempts attempt attempted confirmed) confirmed isEntry
  | grant grant valuation granted isEntry =>
    exact .grant grant valuation (grants grant granted) isEntry

structure Books (db : Db) : Prop where
  readable : ∃ credit, feedCreditInTransaction db = .ok credit
  counterparts : ∀ entry ∈ db.ledgerEntries.rows, Counterpart db entry
  settled : ∀ row ∈ db.settledPayments.rows, row.entry ∈ db.ledgerEntries.rows
  confirmed : ∀ attempt ∈ db.feedAttempts.rows, attempt.status = .confirmed →
    attempt.debit ∈ db.ledgerEntries.rows
  sourceFree : ∀ row ∈ db.settledPayments.rows, ':' ∉ row.source.toList
  amounts : ∀ row ∈ db.settledPayments.rows, 0 < row.amountMsat / 1000
  thresholds : ∀ attempt ∈ db.feedAttempts.rows,
    0 < attempt.thresholdSats ∧ attempt.thresholdSats ≤ maxAccountingUnits
  covered : ∀ attempt ∈ db.feedAttempts.rows, attempt.status.isUnresolved = true →
    attempt.thresholdSats ≤ creditTotal db
  balanced : creditTotal db =
    settledSats db + (db.creditAllocations.rows.map AllocationRow.xmrCredit).sum -
      (db.feedAttempts.rows.map FeedAttempt.cost).sum

namespace Books

theorem ofFresh : Books Db.fresh where
  readable := ⟨0, rfl⟩
  counterparts := by simp [Db.fresh]
  settled := by simp [Db.fresh]
  confirmed := by simp [Db.fresh]
  sourceFree := by simp [Db.fresh]
  amounts := by simp [Db.fresh]
  thresholds := by simp [Db.fresh]
  covered := by simp [Db.fresh]
  balanced := rfl

variable {scope : Scope} {before after : Db}

theorem nonneg (books : Books before) : 0 ≤ creditTotal before := by
  rcases books.readable with ⟨credit, read⟩
  rw [← feedCredit_total read]
  exact Int.natCast_nonneg _

theorem bounded (books : Books before) : creditTotal before ≤ maxI64 := by
  rcases books.readable with ⟨credit, read⟩
  rw [← feedCredit_total read]
  exact CheckedSum.sum_le (by decide) (sqlSum_eq_ok.mp (feedCredit_eq_ok.mp read))

/-- Changes that leave settlements, entries and attempts alone and the XMR
credit as it is. -/
theorem of_same (books : Books before)
    (settlements : after.settledPayments = before.settledPayments)
    (ledger : after.ledgerEntries = before.ledgerEntries)
    (attempts : after.feedAttempts = before.feedAttempts)
    (grants : ∀ grant ∈ before.creditGrants.rows, grant ∈ after.creditGrants.rows)
    (credit : (after.creditAllocations.rows.map AllocationRow.xmrCredit).sum =
      (before.creditAllocations.rows.map AllocationRow.xmrCredit).sum) : Books after where
  readable := by rw [feedCredit_congr ledger]; exact books.readable
  counterparts := by
    rw [ledger]
    exact fun entry member => (books.counterparts entry member).mono
      (by rw [settlements]; exact fun _ settled => settled)
      (by rw [attempts]; exact fun _ attempted _ => attempted) grants
  settled := by rw [settlements, ledger]; exact books.settled
  confirmed := by rw [attempts, ledger]; exact books.confirmed
  sourceFree := by rw [settlements]; exact books.sourceFree
  amounts := by rw [settlements]; exact books.amounts
  thresholds := by rw [attempts]; exact books.thresholds
  covered := by rw [attempts, creditTotal, ledger]; exact books.covered
  balanced := by
    rw [credit, attempts, creditTotal, settledSats, ledger, settlements]
    exact books.balanced

/-- An assignment of watermarks that changes one allocation changes the XMR
credit by what it credits. -/
theorem xmrCredit_setWatermarks {intentId : Uuid} {allocation : AllocationRow}
    {eligible credited : Int} {db : Db} (member : allocation ∈ db.creditAllocations.rows)
    (isId : allocation.valuationId = xmrId intentId) :
    ((db.creditAllocations.rows.map
        (AllocationRow.setWatermarks (xmrId intentId) eligible credited)).map
          AllocationRow.xmrCredit).sum =
      (db.creditAllocations.rows.map AllocationRow.xmrCredit).sum +
        (credited - allocation.creditedSats) := by
  have nodup := db.creditAllocations.rows_nodup fun row => sameKey_iff.mpr ⟨_, rfl, rfl⟩
  rw [List.map_map, sum_map_update nodup member AllocationRow.xmrCredit
    (AllocationRow.xmrCredit ∘ AllocationRow.setWatermarks (xmrId intentId) eligible credited)]
  · simp [AllocationRow.xmrCredit, AllocationRow.setWatermarks, isId, isXmrKey_xmrId]
  · intro other otherMember different
    have otherId : other.valuationId ≠ xmrId intentId := fun same => different
      (db.creditAllocations.row_eq_of_clash otherMember member
        (sameKey_iff.mpr ⟨_, rfl, by rw [same, isId]⟩))
    simp [AllocationRow.setWatermarks, otherId]

theorem of_moves (books : Books before) (moves : MovesAttempts before after) :
    Books after := by
  cases moves with
  | intro update unconfirmed =>
    have isMoved : ∀ attempt ∈ (before.feedAttempts.update update.apply
        update.clash_of_apply).rows, ∃ old ∈ before.feedAttempts.rows,
          update.apply old = attempt := by
      intro attempt member
      simpa using member
    have notConfirmed : ∀ old, (update.apply old).status = .confirmed →
        update.apply old = old := by
      intro old isConfirmed
      unfold AttemptUpdate.apply at isConfirmed ⊢
      split at isConfirmed
      · exact absurd isConfirmed (unconfirmed old)
      · rename_i unselected
        rw [if_neg unselected]
    have cost : ∀ old, (update.apply old).cost = old.cost := by
      intro old
      by_cases isConfirmed : old.status = .confirmed
      · rw [update.apply_of_resolved (by rw [isConfirmed]; rfl)]
      · have stays : (update.apply old).status ≠ .confirmed := fun isMovedTo =>
          isConfirmed (notConfirmed old isMovedTo ▸ isMovedTo)
        rw [FeedAttempt.cost, FeedAttempt.cost, if_neg stays, if_neg isConfirmed]
    exact { books with
      counterparts := fun entry member => (books.counterparts entry member).mono
        (fun _ settled => settled)
        (fun attempt attempted isConfirmed => by
          have same := @AttemptUpdate.apply_of_resolved update attempt
            (by rw [isConfirmed]; rfl)
          simpa [updateAttempts] using ⟨attempt, attempted, same⟩)
        fun _ granted => granted
      confirmed := by
        intro attempt member isConfirmed
        rcases isMoved attempt member with ⟨old, oldMember, rfl⟩
        have same := notConfirmed old isConfirmed
        rw [same] at isConfirmed ⊢
        exact books.confirmed old oldMember isConfirmed
      thresholds := by
        intro attempt member
        rcases isMoved attempt member with ⟨old, oldMember, rfl⟩
        simpa using books.thresholds old oldMember
      covered := by
        intro attempt member isUnresolved
        rcases isMoved attempt member with ⟨old, oldMember, rfl⟩
        rw [AttemptUpdate.apply_thresholdSats]
        exact books.covered old oldMember (update.unresolved_of_apply isUnresolved)
      balanced := by
        have sameCosts : (((before.feedAttempts.update update.apply
            update.clash_of_apply).rows).map FeedAttempt.cost).sum =
              (before.feedAttempts.rows.map FeedAttempt.cost).sum := by
          simp [Function.comp_def, cost]
        exact books.balanced.trans (by rw [← sameCosts]; rfl) }

theorem of_begins {thresholdSats : Nat} {drawn : Uuid} {now : Int} (books : Books before)
    (begins : Begins thresholdSats drawn now before after) : Books after := by
  cases begins with
  | intro positive bounded idle cooled read covered fresh =>
    have total := feedCredit_total read
    exact { books with
      counterparts := fun entry member => (books.counterparts entry member).mono
        (fun _ settled => settled)
        (fun attempt attempted _ => Table.mem_rows_insert_old fresh attempted)
        fun _ granted => granted
      confirmed := by
        intro attempt member isConfirmed
        rcases (Table.mem_rows_insert fresh).mp member with old | rfl
        · exact books.confirmed attempt old isConfirmed
        · cases isConfirmed
      thresholds := by
        intro attempt member
        rcases (Table.mem_rows_insert fresh).mp member with old | rfl
        · exact books.thresholds attempt old
        · exact ⟨Int.natCast_pos.mpr positive, Int.ofNat_le.mpr bounded⟩
      covered := by
        intro attempt member isUnresolved
        rcases (Table.mem_rows_insert fresh).mp member with old | rfl
        · exact books.covered attempt old isUnresolved
        · exact total ▸ Int.ofNat_le.mpr covered
      balanced := by
        have sameCosts : ((before.feedAttempts.insert _ fresh).rows.map
            FeedAttempt.cost).sum = (before.feedAttempts.rows.map FeedAttempt.cost).sum := by
          simp [FeedAttempt.cost]
        exact books.balanced.trans (by rw [← sameCosts]; rfl) }

theorem creditTotal_insert {entry : LedgerEntry} (fresh : before.ledgerEntries.Fresh entry)
    (ledger : after.ledgerEntries = before.ledgerEntries.insert entry fresh) :
    creditTotal after = creditTotal before + entry.deltaSats := by
  simp [creditTotal, ledger]

theorem of_settles {payment : SettledPayment} (books : Books before)
    (settles : Settles payment before after) : Books after := by
  cases settles with
  | @intro credit allocations creditable rowFresh entryFresh read valuationFresh allocationFresh
      allocationRows receiptFresh grantFresh =>
    have isEntry := payment.settledEntry_eq
    have total := @creditTotal_insert before { before with
      ledgerEntries := before.ledgerEntries.insert _ entryFresh } _ entryFresh rfl
    have delta : payment.settledEntry.deltaSats = payment.sats := rfl
    have positive := creditable.sats_pos
    exact {
      readable := ⟨credit, read⟩
      counterparts := by
        intro entry member
        rcases (Table.mem_rows_insert entryFresh).mp member with old | rfl
        · exact (books.counterparts entry old).mono
            (fun _ settled => Table.mem_rows_insert_old rowFresh settled)
            (fun _ attempted _ => attempted)
            fun _ granted => Table.mem_rows_insert_old grantFresh granted
        · exact .settlement payment.settledRow (Table.mem_rows_insert_new rowFresh) isEntry
      settled := by
        intro row member
        rcases (Table.mem_rows_insert rowFresh).mp member with old | rfl
        · exact Table.mem_rows_insert_old entryFresh (books.settled row old)
        · rw [← isEntry]
          exact Table.mem_rows_insert_new entryFresh
      confirmed := fun attempt member isConfirmed =>
        Table.mem_rows_insert_old entryFresh (books.confirmed attempt member isConfirmed)
      sourceFree := by
        intro row member
        rcases (Table.mem_rows_insert rowFresh).mp member with old | rfl
        · exact books.sourceFree row old
        · exact creditable.sourceFree
      amounts := by
        intro row member
        rcases (Table.mem_rows_insert rowFresh).mp member with old | rfl
        · exact books.amounts row old
        · rw [payment.settledRow_amountMsat_div]
          exact Int.natCast_pos.mpr positive
      thresholds := books.thresholds
      covered := by
        intro attempt member isUnresolved
        have covered := books.covered attempt member isUnresolved
        refine Int.le_trans covered (Int.le_trans ?_ (Int.le_of_eq total.symm))
        omega
      balanced := by
        have settled : ((before.settledPayments.insert _ rowFresh).rows.map
            fun row => row.amountMsat / 1000).sum = settledSats before + payment.sats := by
          simp [settledSats, payment.settledRow_amountMsat_div]
        have credited : (allocations.rows.map AllocationRow.xmrCredit).sum =
            (before.creditAllocations.rows.map AllocationRow.xmrCredit).sum := by
          simp [allocationRows, AllocationRow.xmrCredit, isXmrKey_btcId]
        calc creditTotal _ = creditTotal before + payment.sats := total
          _ = settledSats before + payment.sats +
                (before.creditAllocations.rows.map AllocationRow.xmrCredit).sum -
                (before.feedAttempts.rows.map FeedAttempt.cost).sum := by
              rw [books.balanced]
              omega
          _ = _ := by
              rw [← settled, ← credited]
              rfl }

theorem of_grantsSats {intentId : Uuid} {receiptId : Nat} {update : CreditUpdate}
    (books : Books before) (grants : GrantsSats intentId receiptId update before after) :
    Books after := by
  cases grants with
  | @intro valuation allocation receipt terms credit due positive read room
      entryFresh grantFresh =>
    have total := @creditTotal_insert before { before with
      ledgerEntries := before.ledgerEntries.insert _ entryFresh } _ entryFresh rfl
    have delta : (receiptEntry valuation receiptId update.deltaSats).deltaSats =
        update.deltaSats := rfl
    exact {
      readable := ⟨credit + update.deltaSats, by
        rw [feedCredit_eq_ok, sqlSum_eq_ok] at read ⊢
        rw [Table.rows_insert, List.map_append, List.map_cons, List.map_nil,
          CheckedSum.sum_concat, read]
        have fits : ((credit + update.deltaSats : Nat) : Int) ≤ maxI64 := Int.ofNat_le.mpr room
        have low : -maxI64 - 1 ≤ ((credit + update.deltaSats : Nat) : Int) :=
          Int.le_trans (by decide) (Int.natCast_nonneg _)
        exact CheckedSum.add_eq_some.mpr ⟨by rw [delta]; omega, low, fits⟩⟩
      counterparts := by
        intro entry member
        rcases (Table.mem_rows_insert entryFresh).mp member with old | rfl
        · exact (books.counterparts entry old).mono (fun _ settled => settled)
            (fun _ attempted _ => attempted)
            fun _ granted => Table.mem_rows_insert_old grantFresh granted
        · exact .grant _ valuation (Table.mem_rows_insert_new grantFresh) rfl
      settled := fun row member =>
        Table.mem_rows_insert_old entryFresh (books.settled row member)
      confirmed := fun attempt member isConfirmed =>
        Table.mem_rows_insert_old entryFresh (books.confirmed attempt member isConfirmed)
      sourceFree := books.sourceFree
      amounts := books.amounts
      thresholds := books.thresholds
      covered := by
        intro attempt member isUnresolved
        have covered := books.covered attempt member isUnresolved
        refine Int.le_trans covered (Int.le_trans ?_ (Int.le_of_eq total.symm))
        omega
      balanced := by
        have credited : ((update.allocations (xmrId intentId) before).rows.map
            AllocationRow.xmrCredit).sum =
              (before.creditAllocations.rows.map AllocationRow.xmrCredit).sum +
                update.deltaSats := by
          rw [CreditUpdate.allocations, Table.rows_update,
            xmrCredit_setWatermarks due.allocated due.allocatedId, due.delta]
        calc creditTotal _ = creditTotal before + update.deltaSats := total
          _ = settledSats before +
                ((before.creditAllocations.rows.map AllocationRow.xmrCredit).sum +
                  update.deltaSats) -
                (before.feedAttempts.rows.map FeedAttempt.cost).sum := by
              rw [books.balanced]
              omega
          _ = _ := by
              rw [← credited]
              rfl }

theorem unresolved_unique {left right : FeedAttempt}
    (leftMember : left ∈ before.feedAttempts.rows) (rightMember : right ∈ before.feedAttempts.rows)
    (leftUnresolved : left.status.isUnresolved = true)
    (rightUnresolved : right.status.isUnresolved = true) : left = right :=
  before.feedAttempts.row_eq_of_clash leftMember rightMember
    (.inr (sameKey_iff.mpr ⟨(), by rw [if_pos leftUnresolved], by rw [if_pos rightUnresolved]⟩))

theorem of_debits {id : Uuid} {now : Int} (books : Books before)
    (debits : Debits id now before after) : Books after := by
  cases debits with
  | @intro attempt expected covering credit unresolved member selected nonneg covers covered
      entryFresh read =>
    have isSelected := selected
    simp only [isAttempt, Bool.and_eq_true, decide_eq_true_eq] at isSelected
    rcases isSelected with ⟨isId, isExpected⟩
    have isUnresolved : attempt.status.isUnresolved = true := by rw [isExpected, unresolved]
    let update := AttemptUpdate.fed id expected unresolved now
    have isEntry : debitEntry id attempt.thresholdSats = attempt.debit := by
      rw [← isId]
      rfl
    have applied : update.apply attempt =
        { attempt with status := .confirmed, resolvedAt := some now, error := none } := by
      exact if_pos selected
    have others : ∀ other ∈ before.feedAttempts.rows, other ≠ attempt →
        update.apply other = other := by
      intro other otherMember different
      refine if_neg fun otherSelected => different ?_
      exact unresolved_unique otherMember member
        (unresolved_of_isAttempt unresolved other otherSelected) isUnresolved
    have isMoved : ∀ moved ∈ (before.feedAttempts.update update.apply
        update.clash_of_apply).rows, moved = update.apply attempt ∨
          moved ∈ before.feedAttempts.rows ∧ moved ≠ attempt := by
      intro moved movedMember
      rw [Table.rows_update] at movedMember
      rcases List.mem_map.mp movedMember with ⟨old, oldMember, rfl⟩
      by_cases same : old = attempt
      · exact .inl (by rw [same])
      · rw [others old oldMember same]
        exact .inr ⟨oldMember, same⟩
    have total := @creditTotal_insert before { before with
      ledgerEntries := before.ledgerEntries.insert _ entryFresh } _ entryFresh rfl
    exact {
      readable := ⟨credit, read⟩
      counterparts := by
        intro entry entryMember
        rcases (Table.mem_rows_insert entryFresh).mp entryMember with old | rfl
        · refine (books.counterparts entry old).mono (fun _ settled => settled)
            (fun other attempted isConfirmed => ?_) fun _ granted => granted
          have same := @AttemptUpdate.apply_of_resolved update other (by rw [isConfirmed]; rfl)
          rw [Table.rows_update]
          exact List.mem_map.mpr ⟨other, attempted, same⟩
        · refine .debit (update.apply attempt) ?_ (by rw [applied]) ?_
          · rw [Table.rows_update]
            exact List.mem_map_of_mem member
          · rw [isEntry, applied]
            rfl
      settled := fun row settled =>
        Table.mem_rows_insert_old entryFresh (books.settled row settled)
      confirmed := by
        intro moved movedMember isConfirmed
        rcases isMoved moved movedMember with rfl | ⟨old, _⟩
        · have same : (update.apply attempt).debit = debitEntry id attempt.thresholdSats := by
            rw [isEntry, applied]
            rfl
          rw [same]
          exact Table.mem_rows_insert_new entryFresh
        · exact Table.mem_rows_insert_old entryFresh (books.confirmed moved old isConfirmed)
      sourceFree := books.sourceFree
      amounts := books.amounts
      thresholds := by
        intro moved movedMember
        rcases isMoved moved movedMember with rfl | ⟨old, _⟩
        · rw [AttemptUpdate.apply_thresholdSats]
          exact books.thresholds attempt member
        · exact books.thresholds moved old
      covered := by
        intro moved movedMember stillUnresolved
        rcases isMoved moved movedMember with rfl | ⟨old, different⟩
        · rw [applied] at stillUnresolved
          cases stillUnresolved
        · exact absurd (unresolved_unique old member stillUnresolved isUnresolved) different
      balanced := by
        have nodup := before.feedAttempts.rows_nodup fun row =>
          .inl (sameKey_iff.mpr ⟨_, rfl, rfl⟩)
        have costs : (((before.feedAttempts.update update.apply
            update.clash_of_apply).rows).map FeedAttempt.cost).sum =
              (before.feedAttempts.rows.map FeedAttempt.cost).sum + attempt.thresholdSats := by
          rw [Table.rows_update, List.map_map, sum_map_update nodup member FeedAttempt.cost
            (FeedAttempt.cost ∘ update.apply)]
          · have free : attempt.cost = 0 := by
              refine if_neg fun isConfirmed => ?_
              rw [isConfirmed] at isUnresolved
              cases isUnresolved
            rw [Function.comp_apply, applied, free]
            simp [FeedAttempt.cost]
          · intro other otherMember different
            rw [Function.comp_apply, others other otherMember different]
        calc creditTotal _ = creditTotal before + -attempt.thresholdSats := total
          _ = settledSats before +
                (before.creditAllocations.rows.map AllocationRow.xmrCredit).sum -
                ((before.feedAttempts.rows.map FeedAttempt.cost).sum +
                  attempt.thresholdSats) := by
              rw [books.balanced]
              omega
          _ = _ := by
              rw [← costs]
              rfl }

theorem of_quiet (books : Books before) (quiet : Quiet scope before after) : Books after := by
  cases quiet with
  | registers registers =>
    cases registers with
    | intro _ _ allocationFresh =>
      refine books.of_same rfl rfl rfl (fun _ granted => granted) ?_
      simp [AllocationRow.xmrCredit]
  | holds _ holds =>
    cases holds with
    | intro conflicts =>
      refine books.of_same rfl rfl rfl (fun _ granted => granted) ?_
      have credit : ∀ (id : String) (reason : CreditHold) (row : AllocationRow),
          (row.hold id reason).xmrCredit = row.xmrCredit := by
        intro id reason row
        unfold AllocationRow.hold
        split <;> rfl
      simp [holdAllocation, Function.comp_def, credit]
  | stores stores => cases stores; exact books.of_same rfl rfl rfl (fun _ granted => granted) rfl
  | unlocks => exact books.of_same rfl rfl rfl (fun _ granted => granted) rfl
  | grantsDust grants =>
    cases grants with
    | intro due dust fresh =>
      refine books.of_same rfl rfl rfl
        (fun _ granted => Table.mem_rows_insert_old fresh granted) ?_
      have nothing := due.delta
      rw [CreditUpdate.allocations, Table.rows_update,
        xmrCredit_setWatermarks due.allocated due.allocatedId]
      omega
  | begins begins => exact books.of_begins begins
  | moves moves => exact books.of_moves moves
  | cools => exact books.of_same rfl rfl rfl (fun _ granted => granted) rfl
  | logs logs => cases logs; exact books.of_same rfl rfl rfl (fun _ granted => granted) rfl
  | strike => exact books.of_same rfl rfl rfl (fun _ granted => granted) rfl

theorem of_booking (books : Books before) (booking : Booking scope before after) :
    Books after := by
  cases booking with
  | settles settles => exact books.of_settles settles
  | grants grants => exact books.of_grantsSats grants
  | debits debits => exact books.of_debits debits
  | announces announces =>
    cases announces
    exact books.of_same rfl rfl rfl (fun _ granted => granted) rfl

theorem of_run [SerdeJson] {labels : List LedgerLabel}
    (run : LedgerRun Db.fresh labels after) : Books after :=
  ledgerRun_invariant of_quiet of_booking run ofFresh

end Books

end LightningGoats
