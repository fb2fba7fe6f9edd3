import LightningGoats.Ledger.Provenance

/-! # Deliveries of settled payments

A payment is settled once. Later deliveries of it are recognised, contradicting
ones are refused, and the order of deliveries does not matter.
-/

namespace LightningGoats

open Outcome Relational

/-! ## Settling succeeds -/

section Succeeds

variable {db : Db}

theorem nativeBtc_assess_ok {sats : Nat} (bounded : sats ≤ maxAccountingUnits) :
    CreditTerms.nativeBtc.assessUpdate ⟨.btc, 0, by decide⟩ 0 ⟨.btc, sats, bounded⟩ =
      .ok ⟨⟨.btc, sats, bounded⟩, sats, sats⟩ := by
  rw [CreditTerms.assessUpdate_eq_ok, CreditTerms.cumulativeSats_eq_ok,
    CreditTerms.cumulativeSats_eq_ok]
  refine ⟨⟨rfl, by simp [CreditTerms.nativeBtc], Nat.zero_le _⟩,
    ⟨rfl, by simp [CreditTerms.nativeBtc], bounded⟩, Nat.zero_le _, Nat.zero_le _, rfl, rfl⟩

theorem recordNativeBtc_ok {settlementId ledgerId eventSeq sats : Nat} {row : SettledPaymentRow}
    (found : db.settledPayments.get? settlementId = some row)
    (positive : 0 < sats) (aligned : row.amountMsat % 1000 = 0)
    (isSats : row.amountMsat / 1000 = sats) (bounded : sats ≤ maxAccountingUnits)
    (key : FitsColumn 256 row.sourceId)
    (valuationFresh : db.creditValuations.Fresh (btcValuation settlementId row))
    (allocationFresh : db.creditAllocations.Fresh ⟨btcId settlementId, 0, 0, none⟩)
    (receiptFresh : db.assetReceipts.Fresh (btcReceipt settlementId row sats))
    (grantFresh : db.creditGrants.Fresh
      ⟨db.assetReceipts.nextRowid, sats, sats, sats, some ledgerId, some eventSeq⟩) :
    ∃ after, recordNativeBtc settlementId ledgerId eventSeq db = .ok after := by
  have units : (row.amountMsat / 1000).toNat = sats := by omega
  have amountNew : AssetAmount.new .btc sats = _ := AssetAmount.new_of bounded
  have native : (AssetAmount.mk .btc sats bounded).nativeSats = .ok sats := if_pos rfl
  have nothing : AssetAmount.new .btc 0 = _ := AssetAmount.new_of (Nat.zero_le _)
  have one : (0 : Int) < 1 ∧ (1 : Int) ≤ maxI64 := by decide
  have valid : (btcValuation settlementId row).Valid :=
    ⟨one.1, one.1, one.2, rfl, rfl, rfl, rfl, rfl, rfl, rfl, rfl⟩
  have inserted := Valuation.insert_eq_ok.mpr ⟨valid, valuationFresh, allocationFresh, rfl⟩
  have satsI64 : ∀ field, toI64 sats field = .ok (sats : Int) :=
    fun _ => toI64_eq_ok.mpr ⟨bounded, rfl⟩
  have receiptValid : (btcReceipt settlementId row sats).Valid :=
    ⟨key, Int.natCast_pos.mpr positive, by simp [btcReceipt]⟩
  have grantValid : CreditGrant.Valid
      ⟨db.assetReceipts.nextRowid, sats, sats, sats, some ledgerId, some eventSeq⟩ :=
    ⟨Int.natCast_nonneg _, Int.natCast_pos.mpr positive, Int.le_refl _,
      .inr ⟨Int.natCast_pos.mpr positive, rfl⟩⟩
  simp only [recordNativeBtc, bind_eq_ok, require_eq_ok, ensure_eq_ok, liftCredit_eq_ok,
    Prod.exists, insertRow_eq_ok, setAllocation_eq_ok]
  refine ⟨_, row, found, .unit, ⟨by omega, aligned⟩, _, units ▸ amountNew, sats, native, _,
    nothing, _, amountNew, _, nativeBtc_assess_ok bounded, _, inserted, _, satsI64 _, _, _,
    ⟨receiptValid, rfl, receiptFresh, rfl⟩, _, satsI64 _, _, _,
    ⟨grantValid, rfl, grantFresh, rfl⟩, ?_, rfl⟩
  intro allocation member sameId
  have nonneg : (0 : Int) ≤ sats := Int.natCast_nonneg _
  rcases (Table.mem_rows_insert allocationFresh).mp member with old | rfl
  · exact absurd (sameKey_iff.mpr ⟨_, by rw [sameId], rfl⟩) (allocationFresh allocation old)
  · exact ⟨⟨nonneg, nonneg⟩, nonneg, nonneg⟩

variable {payment : SettledPayment}

structure SettledPayment.IsNew (payment : SettledPayment) (db : Db) : Prop where
  identity : ∀ row ∈ db.settledPayments.rows,
    ¬ (row.source = payment.source ∧ row.sourceId = payment.sourceId)
  hash : ∀ row ∈ db.settledPayments.rows, ∀ hash ∈ payment.paymentHash,
    row.paymentHash ≠ some hash

theorem SettledPayment.IsNew.row_fresh (isNew : payment.IsNew db) :
    db.settledPayments.Fresh payment.settledRow := by
  rintro row member (identities | hashes)
  · rcases sameKey_iff.mp identities with ⟨key, rowKey, newKey⟩
    have same := Option.some.inj (rowKey.trans newKey.symm)
    rw [Prod.mk.injEq] at same
    exact isNew.identity row member same
  · rcases sameKey_iff.mp hashes with ⟨hash, rowHash, newHash⟩
    exact isNew.hash row member hash newHash rowHash

theorem SettledPayment.IsNew.entry_fresh (isNew : payment.IsNew db) (books : Books db)
    (sourceFree : ':' ∉ payment.source.toList) :
    db.ledgerEntries.Fresh payment.settledEntry := by
  intro entry member clashes
  rcases sameKey_iff.mp clashes with ⟨key, entryKey, newKey⟩
  have sameKey : entry.sourceKey = paymentKey payment.source payment.sourceId :=
    Option.some.inj (entryKey.trans newKey.symm)
  cases books.counterparts entry member with
  | settlement row settled isEntry =>
      subst isEntry
      exact isNew.identity row settled
        ((paymentKey_inj (books.sourceFree row settled) sourceFree).mp sameKey)
  | debit attempt _ _ isEntry =>
      subst isEntry
      exact paymentKey_ne_feedKey _ _ _ sameKey.symm
  | grant grant valuation _ isEntry =>
      subst isEntry
      exact paymentKey_ne_receiptKey _ _ _ sameKey.symm

theorem SettledPayment.IsNew.valuation_fresh (isNew : payment.IsNew db)
    (tables : CreditTables db) :
    db.creditValuations.Fresh
      (btcValuation db.settledPayments.nextRowid payment.settledRow) := by
  intro valuation member clashes
  cases asset : valuation.asset with
  | xmr =>
      rcases tables.quoted valuation member asset with ⟨intent, _, rfl⟩
      rcases clashes with ids | bindings
      · rcases sameKey_iff.mp ids with ⟨id, intentId, settlementId⟩
        exact xmrId_ne_btcId _ _ (Option.some.inj (intentId.trans settlementId.symm))
      · rcases sameKey_iff.mp bindings with ⟨binding, intentBinding, newBinding⟩
        have same := Option.some.inj (intentBinding.trans newBinding.symm)
        cases (congrArg Prod.fst same : Asset.xmr = Asset.btc)
  | btc =>
      rcases tables.native valuation member asset with ⟨settlementId, row, settled, rfl⟩
      rcases clashes with ids | bindings
      · rcases sameKey_iff.mp ids with ⟨id, oldId, newId⟩
        have same := btcId_inj.mp (Option.some.inj (oldId.trans newId.symm))
        subst same
        exact db.settledPayments.nextRowid_not_mem row settled
      · rcases sameKey_iff.mp bindings with ⟨binding, oldBinding, newBinding⟩
        have same := Option.some.inj (oldBinding.trans newBinding.symm)
        simp only [btcValuation, Prod.mk.injEq, true_and] at same
        exact isNew.identity row (Table.mem_rows_of_mem_entries settled) same

structure SettledPayment.Accepted [SerdeJson] (payment : SettledPayment) : Prop where
  valid : validatePayment payment = .ok ()
  bounded : payment.amountMsat ≤ maxAccountingUnits

section Accepted

variable [SerdeJson]

theorem SettledPayment.Accepted.creditable (accepted : payment.Accepted) :
    payment.Creditable :=
  validatePayment_creditable accepted.valid accepted.bounded

theorem SettledPayment.Accepted.settledRow_valid (accepted : payment.Accepted) :
    payment.settledRow.Valid := by
  have valid := accepted.valid
  simp only [validatePayment, bind_eq_ok, ensure_eq_ok, validateUser_eq_ok] at valid
  rcases valid with ⟨_, source, _, sourceId, _, user, _, pool, _, _, _, nonzero, _, _, _,
    settled, _⟩
  exact ⟨fitsColumn_source source, fitsColumn_externalId sourceId, fitsColumn_user user,
    fitsColumn_user pool, Int.natCast_pos.mpr (Nat.pos_of_ne_zero nonzero), settled⟩

theorem settlePayment_ok (accepted : payment.Accepted) (isNew : payment.IsNew db)
    (books : Books db) (tables : CreditTables db)
    (room : creditTotal db + payment.sats ≤ maxI64) :
    ∃ after, settlePayment payment payment.amountMsat payment.sats payment.sats db =
      .ok after := by
  have creditable := accepted.creditable
  have aligned := creditable.aligned
  have rowFresh := isNew.row_fresh
  have entryFresh := isNew.entry_fresh books creditable.sourceFree
  have valuationFresh := isNew.valuation_fresh tables
  have noValuation : ∀ valuation ∈ db.creditValuations.rows,
      valuation.id ≠ btcId db.settledPayments.nextRowid := fun valuation member same =>
    valuationFresh valuation member (.inl (sameKey_iff.mpr ⟨_, congrArg some same, rfl⟩))
  have allocationFresh : db.creditAllocations.Fresh
      ⟨btcId db.settledPayments.nextRowid, 0, 0, none⟩ := by
    intro allocation member clashes
    rcases sameKey_iff.mp clashes with ⟨id, oldId, newId⟩
    rcases tables.valuation_of_allocation member with ⟨valuation, valued, same⟩
    exact noValuation valuation valued (same.trans (Option.some.inj (oldId.trans newId.symm)))
  have receiptFresh : db.assetReceipts.Fresh
      (btcReceipt db.settledPayments.nextRowid payment.settledRow payment.sats) := by
    rintro receipt member (keys | settlements)
    · rcases sameKey_iff.mp keys with ⟨key, oldKey, newKey⟩
      have same := congrArg Prod.fst (Option.some.inj (oldKey.trans newKey.symm))
      rcases tables.received receipt member with ⟨valuation, valued, isId⟩
      exact noValuation valuation valued (isId.trans same)
    · rcases sameKey_iff.mp settlements with ⟨settlementId, oldLink, newLink⟩
      have linked := tables.linked receipt member settlementId oldLink
      have isNext : db.settledPayments.sequence + 1 = settlementId := Option.some.inj newLink
      omega
  have grantFresh : db.creditGrants.Fresh ⟨db.assetReceipts.nextRowid, payment.sats,
      payment.sats, payment.sats, some db.ledgerEntries.nextRowid,
      some db.eventLog.nextRowid⟩ := by
    rintro grant member (receipts | entries | events)
    · rcases sameKey_iff.mp receipts with ⟨receiptId, oldId, newId⟩
      rcases tables.granted grant member with ⟨receipt, stored⟩
      have same : grant.receiptId = db.assetReceipts.nextRowid :=
        Option.some.inj (oldId.trans newId.symm)
      rw [same] at stored
      exact db.assetReceipts.nextRowid_not_mem receipt stored
    · rcases sameKey_iff.mp entries with ⟨entryId, oldId, newId⟩
      have booked := tables.booked grant member entryId oldId
      have isNext : db.ledgerEntries.sequence + 1 = entryId := Option.some.inj newId
      omega
    · rcases sameKey_iff.mp events with ⟨seq, oldSeq, newSeq⟩
      have announced := tables.announced grant member seq oldSeq
      have isNext : db.eventLog.sequence + 1 = seq := Option.some.inj newSeq
      omega
  rcases books.readable with ⟨credit, read⟩
  have total := feedCredit_total read
  have booked : feedCreditInTransaction { db with
      settledPayments := db.settledPayments.insert _ rowFresh
      ledgerEntries := db.ledgerEntries.insert _ entryFresh } = .ok (credit + payment.sats) := by
    rw [feedCredit_eq_ok, sqlSum_eq_ok] at read ⊢
    rw [Table.rows_insert, List.map_append, List.map_cons, List.map_nil,
      CheckedSum.sum_concat, read]
    have low : -maxI64 - 1 ≤ (0 : Int) := by decide
    have delta : payment.settledEntry.deltaSats = payment.sats := rfl
    exact CheckedSum.add_eq_some.mpr ⟨by rw [delta]; omega, by omega, by omega⟩
  simp only [settlePayment, bind_eq_ok, Prod.exists, insertRow_eq_ok]
  have recorded := @recordNativeBtc_ok { db with
      settledPayments := db.settledPayments.insert _ rowFresh
      ledgerEntries := db.ledgerEntries.insert _ entryFresh
      eventLog := db.eventLog.insert ⟨"payment_received",
        payment.announcement payment.sats (credit + payment.sats)⟩ (noClash_fresh _ _) }
    db.settledPayments.nextRowid db.ledgerEntries.nextRowid db.eventLog.nextRowid payment.sats
    payment.settledRow (Table.get?_insert_self _ _ rowFresh) creditable.sats_pos
    (by have amount : payment.settledRow.amountMsat = payment.amountMsat := rfl
        omega)
    payment.settledRow_amountMsat_div creditable.sats_le accepted.settledRow_valid.2.1
    valuationFresh allocationFresh receiptFresh grantFresh
  rcases recorded with ⟨after, recorded⟩
  exact ⟨after, _, _, ⟨accepted.settledRow_valid, rfl, rowFresh, rfl⟩, _, _,
    ⟨trivial, rfl, entryFresh, rfl⟩, _, booked, recorded⟩

end Accepted

end Succeeds

/-! ## What a delivery returns -/

section Deliveries

variable {db : Db} {payment : SettledPayment} {entry : Nat × SettledPaymentRow}

theorem findSettlement_eq_some
    (found : findSettlement payment.source payment.sourceId db = some entry) :
    entry ∈ db.settledPayments.entries ∧ entry.2.source = payment.source ∧
      entry.2.sourceId = payment.sourceId := by
  have selected := List.find?_some found
  simp only [Bool.and_eq_true, decide_eq_true_eq] at selected
  exact ⟨List.mem_of_find?_eq_some found, selected⟩

theorem findSettlement_of_mem (member : entry ∈ db.settledPayments.entries)
    (source : entry.2.source = payment.source) (sourceId : entry.2.sourceId = payment.sourceId) :
    findSettlement payment.source payment.sourceId db = some entry := by
  cases search : findSettlement payment.source payment.sourceId db with
  | none =>
      have absent := List.find?_eq_none.mp search entry member
      simp [source, sourceId] at absent
  | some found =>
      rcases findSettlement_eq_some search with ⟨foundMember, foundSource, foundId⟩
      have same := db.settledPayments.entry_eq_of_clash foundMember member
        (.inl (sameKey_iff.mpr ⟨_, rfl, by rw [source, sourceId, foundSource, foundId]⟩))
      rw [same]

theorem findSettlement_eq_none :
    findSettlement payment.source payment.sourceId db = none ↔
      ∀ row ∈ db.settledPayments.rows,
        ¬ (row.source = payment.source ∧ row.sourceId = payment.sourceId) := by
  rw [findSettlement, List.find?_eq_none]
  constructor
  · intro absent row member
    rcases Table.mem_rows.mp member with ⟨rowid, stored⟩
    simpa using absent _ stored
  · intro absent entry member
    simpa using absent entry.2 (Table.mem_rows_of_mem_entries member)

theorem verifyNativeBtc_ok (provenance : Provenance db)
    (member : entry ∈ db.settledPayments.entries) : verifyNativeBtc entry.1 db = .ok () :=
  (provenance.recorded entry member).backed.verified member

variable [SerdeJson]

theorem recordPayment_eq (accepted : payment.Accepted) :
    recordPayment payment db =
      match findSettlement payment.source payment.sourceId db with
      | some existing =>
          if payment.Redelivers payment.amountMsat existing.2 then do
            verifyNativeBtc existing.1 db
            return (.duplicate, db)
          else throw (.conflictingSettlement payment.source payment.sourceId)
      | none => do
          checkHashCollision payment db
          let settled ← settlePayment payment payment.amountMsat payment.sats payment.sats db
          return (.credited payment.sats payment.addressUser payment.creditPool, settled) := by
  have amount : toI64 payment.amountMsat "amount_msat" = .ok (payment.amountMsat : Int) :=
    toI64_eq_ok.mpr ⟨accepted.bounded, rfl⟩
  have credited : toI64 (payment.amountMsat / 1000) "credited_sats" = .ok (payment.sats : Int) :=
    toI64_eq_ok.mpr ⟨accepted.creditable.sats_le, rfl⟩
  rw [recordPayment, accepted.valid, amount]
  dsimp only
  rw [credited]
  rfl

theorem recordPayment_again (accepted : payment.Accepted)
    (verified : verifyNativeBtc entry.1 db = .ok ())
    (member : entry ∈ db.settledPayments.entries) (source : entry.2.source = payment.source)
    (sourceId : entry.2.sourceId = payment.sourceId)
    (redelivers : payment.Redelivers payment.amountMsat entry.2) :
    recordPayment payment db = .ok (.duplicate, db) := by
  rw [recordPayment_eq accepted, findSettlement_of_mem member source sourceId]
  simp only [if_pos redelivers, verified]
  rfl

theorem recordPayment_contradicts (accepted : payment.Accepted)
    (member : entry ∈ db.settledPayments.entries) (source : entry.2.source = payment.source)
    (sourceId : entry.2.sourceId = payment.sourceId)
    (differs : ¬ payment.Redelivers payment.amountMsat entry.2) :
    recordPayment payment db =
      .error (.conflictingSettlement payment.source payment.sourceId) := by
  rw [recordPayment_eq accepted, findSettlement_of_mem member source sourceId]
  simp only [if_neg differs]
  rfl

theorem recordPayment_rejects (rejected : ¬ payment.Accepted) :
    ∃ error, recordPayment payment db = .error error := by
  cases ran : recordPayment payment db with
  | error error => exact ⟨error, rfl⟩
  | ok recorded =>
      rcases recordPayment_cases ran with ⟨valid, creditable, _⟩
      exact absurd ⟨valid, creditable.bounded⟩ rejected

theorem recordPayment_collides (accepted : payment.Accepted)
    (absent : findSettlement payment.source payment.sourceId db = none) {hash : String}
    (hashed : payment.paymentHash = some hash) {row : SettledPaymentRow}
    (member : row ∈ db.settledPayments.rows) (collides : row.paymentHash = some hash) :
    recordPayment payment db =
      .error (.hashCollision hash row.source row.sourceId payment.source payment.sourceId) := by
  have found : db.settledPayments.rows.find? (fun row => row.paymentHash = some hash) =
      some row := by
    refine db.settledPayments.find?_eq_some_of_clash _ member (decide_eq_true collides) ?_
    intro left right leftSelected rightSelected
    exact .inr (sameKey_iff.mpr ⟨hash, decide_eq_true_eq.mp leftSelected,
      decide_eq_true_eq.mp rightSelected⟩)
  rw [recordPayment_eq accepted, absent]
  simp only [checkHashCollision, hashed, found]
  rfl

theorem recordPayment_new (accepted : payment.Accepted) (isNew : payment.IsNew db)
    (books : Books db) (tables : CreditTables db)
    (room : creditTotal db + payment.sats ≤ maxI64) :
    ∃ after, recordPayment payment db =
      .ok (.credited payment.sats payment.addressUser payment.creditPool, after) ∧
        Settles payment db after := by
  rcases settlePayment_ok accepted isNew books tables room with ⟨after, settled⟩
  have noCollision : checkHashCollision payment db = .ok () := by
    unfold checkHashCollision
    split
    · rfl
    · rename_i hash hashed
      have free : db.settledPayments.rows.find? (fun row => row.paymentHash = some hash) =
          none := by
        refine List.find?_eq_none.mpr fun row member => ?_
        simpa using isNew.hash row member hash hashed
      rw [free]
      rfl
  refine ⟨after, ?_, settlePayment_eq_ok accepted.creditable settled⟩
  rw [recordPayment_eq accepted, findSettlement_eq_none.mpr isNew.identity]
  simp only [noCollision, settled]
  rfl

end Deliveries

end LightningGoats
