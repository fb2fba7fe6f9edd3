import LightningGoats.Ledger.Keys

/-! # The shape of the credit tables

Every valuation is the quote of an intent or the identity valuation of a
settlement, and it has one allocation. Every receipt belongs to a valuation,
and every grant to a receipt.
-/

namespace LightningGoats

open Outcome Relational

structure CreditTables (db : Db) : Prop where
  allocated : db.creditAllocations.rows.map AllocationRow.valuationId =
    db.creditValuations.rows.map Valuation.id
  quoted : ∀ valuation ∈ db.creditValuations.rows, valuation.asset = .xmr →
    ∃ intent : XmrCreditIntent, intent.Limited ∧ valuation = intent.stored
  native : ∀ valuation ∈ db.creditValuations.rows, valuation.asset = .btc →
    ∃ settlementId row, (settlementId, row) ∈ db.settledPayments.entries ∧
      valuation = btcValuation settlementId row
  received : ∀ receipt ∈ db.assetReceipts.rows,
    ∃ valuation ∈ db.creditValuations.rows, valuation.id = receipt.valuationId
  positive : ∀ receipt ∈ db.assetReceipts.rows, 0 < receipt.amountAtomic
  linked : ∀ receipt ∈ db.assetReceipts.rows, ∀ settlementId ∈ receipt.btcSettlementId,
    settlementId ≤ db.settledPayments.sequence
  granted : ∀ grant ∈ db.creditGrants.rows,
    ∃ receipt, (grant.receiptId, receipt) ∈ db.assetReceipts.entries
  booked : ∀ grant ∈ db.creditGrants.rows, ∀ entryId ∈ grant.ledgerEntryId,
    entryId ≤ db.ledgerEntries.sequence
  announced : ∀ grant ∈ db.creditGrants.rows, ∀ seq ∈ grant.eventSeq,
    seq ≤ db.eventLog.sequence

namespace CreditTables

theorem ofFresh : CreditTables Db.fresh where
  allocated := rfl
  quoted := by simp [Db.fresh]
  native := by simp [Db.fresh]
  received := by simp [Db.fresh]
  positive := by simp [Db.fresh]
  linked := by simp [Db.fresh]
  granted := by simp [Db.fresh]
  booked := by simp [Db.fresh]
  announced := by simp [Db.fresh]

variable {scope : Scope} {before after : Db}

theorem mono (tables : CreditTables before)
    (valuations : after.creditValuations = before.creditValuations)
    (allocations : after.creditAllocations.rows.map AllocationRow.valuationId =
      before.creditAllocations.rows.map AllocationRow.valuationId)
    (receipts : after.assetReceipts = before.assetReceipts)
    (grants : after.creditGrants = before.creditGrants)
    (settlements : after.settledPayments = before.settledPayments)
    (ledger : before.ledgerEntries.sequence ≤ after.ledgerEntries.sequence)
    (log : before.eventLog.sequence ≤ after.eventLog.sequence) : CreditTables after where
  allocated := by rw [allocations, valuations]; exact tables.allocated
  quoted := by rw [valuations]; exact tables.quoted
  native := by rw [valuations, settlements]; exact tables.native
  received := by rw [receipts, valuations]; exact tables.received
  positive := by rw [receipts]; exact tables.positive
  linked := by rw [receipts, settlements]; exact tables.linked
  granted := by rw [grants, receipts]; exact tables.granted
  booked := by
    rw [grants]
    exact fun grant member entryId isEntry =>
      Nat.le_trans (tables.booked grant member entryId isEntry) ledger
  announced := by
    rw [grants]
    exact fun grant member seq isSeq =>
      Nat.le_trans (tables.announced grant member seq isSeq) log

theorem of_registers {intent : XmrCreditIntent} (tables : CreditTables before)
    (registers : Registers intent before after) : CreditTables after := by
  cases registers with
  | intro limited valuationFresh allocationFresh =>
    exact { tables with
      allocated := by
        simp only [Table.rows_insert, List.map_append, tables.allocated]
        rfl
      quoted := by
        intro valuation member isXmr
        rcases (Table.mem_rows_insert valuationFresh).mp member with old | rfl
        · exact tables.quoted valuation old isXmr
        · exact ⟨intent, limited, rfl⟩
      native := by
        intro valuation member isBtc
        rcases (Table.mem_rows_insert valuationFresh).mp member with old | rfl
        · exact tables.native valuation old isBtc
        · cases isBtc
      received := by
        intro receipt member
        rcases tables.received receipt member with ⟨valuation, valued, same⟩
        exact ⟨valuation, Table.mem_rows_insert_old valuationFresh valued, same⟩ }

theorem of_holds {intentId : Uuid} {reason : CreditHold} (tables : CreditTables before)
    (holds : Holds intentId reason before after) : CreditTables after := by
  cases holds with
  | intro conflicts =>
    refine tables.mono rfl ?_ rfl rfl rfl (Nat.le_refl _) (Nat.le_refl _)
    simp [holdAllocation, Function.comp_def]

theorem of_stores {intentId : Uuid} (tables : CreditTables before)
    (stores : Stores intentId before after) : CreditTables after := by
  cases stores with
  | @intro valuation receipt valued isId _ bound isPositive notNative _ _ fresh =>
    exact { tables with
      received := by
        intro other member
        rcases (Table.mem_rows_insert fresh).mp member with old | rfl
        · exact tables.received other old
        · exact ⟨valuation, valued, by rw [bound, isId]⟩
      positive := by
        intro other member
        rcases (Table.mem_rows_insert fresh).mp member with old | rfl
        · exact tables.positive other old
        · exact isPositive
      linked := by
        intro other member settlementId isLinked
        rcases (Table.mem_rows_insert fresh).mp member with old | rfl
        · exact tables.linked other old settlementId isLinked
        · rw [notNative] at isLinked
          cases isLinked
      granted := by
        intro grant member
        rcases tables.granted grant member with ⟨other, stored⟩
        exact ⟨other, Table.mem_entries_insert_old fresh stored⟩ }

theorem of_unlocks (tables : CreditTables before) (receiptId : Nat) :
    CreditTables (unlockReceipt receiptId before) :=
  { tables with
    received := by
      intro receipt member
      rcases mem_rows_unlockReceipt.mp member with ⟨entry, stored, rfl⟩
      rcases tables.received entry.2 (Table.mem_rows_of_mem_entries stored) with
        ⟨valuation, valued, same⟩
      exact ⟨valuation, valued, by simp [same]⟩
    positive := by
      intro receipt member
      rcases mem_rows_unlockReceipt.mp member with ⟨entry, stored, rfl⟩
      rw [AssetReceipt.unlock_amountAtomic]
      exact tables.positive entry.2 (Table.mem_rows_of_mem_entries stored)
    linked := by
      intro receipt member settlementId isLinked
      rcases mem_rows_unlockReceipt.mp member with ⟨entry, stored, rfl⟩
      rw [AssetReceipt.unlock_btcSettlementId] at isLinked
      exact tables.linked entry.2 (Table.mem_rows_of_mem_entries stored) settlementId isLinked
    granted := by
      intro grant member
      rcases tables.granted grant member with ⟨receipt, stored⟩
      exact ⟨_, List.mem_map_of_mem stored⟩ }

theorem of_grant {receiptId : Nat} {receipt : AssetReceipt} {update : CreditUpdate}
    {id : String} {ledgerEntryId eventSeq : Option Nat} {entries : Table LedgerEntry.Clash}
    {log : Table (@NoClash Event)} (tables : CreditTables before)
    (stored : (receiptId, receipt) ∈ before.assetReceipts.entries)
    (ledger : before.ledgerEntries.sequence ≤ entries.sequence)
    (logged : before.eventLog.sequence ≤ log.sequence)
    (isBooked : ∀ entryId ∈ ledgerEntryId, entryId ≤ entries.sequence)
    (isAnnounced : ∀ seq ∈ eventSeq, seq ≤ log.sequence)
    (fresh : before.creditGrants.Fresh (update.grant receiptId ledgerEntryId eventSeq)) :
    CreditTables { before with
      ledgerEntries := entries
      eventLog := log
      creditGrants := before.creditGrants.insert _ fresh
      creditAllocations := update.allocations id before } :=
  { tables with
    allocated := by
      rw [← tables.allocated]
      simp [CreditUpdate.allocations, Function.comp_def]
    granted := by
      intro grant member
      rcases (Table.mem_rows_insert fresh).mp member with old | rfl
      · exact tables.granted grant old
      · exact ⟨receipt, stored⟩
    booked := by
      intro grant member entryId isEntry
      rcases (Table.mem_rows_insert fresh).mp member with old | rfl
      · exact Nat.le_trans (tables.booked grant old entryId isEntry) ledger
      · exact isBooked entryId isEntry
    announced := by
      intro grant member seq isSeq
      rcases (Table.mem_rows_insert fresh).mp member with old | rfl
      · exact Nat.le_trans (tables.announced grant old seq isSeq) logged
      · exact isAnnounced seq isSeq }

theorem of_settles {payment : SettledPayment} (tables : CreditTables before)
    (settles : Settles payment before after) : CreditTables after := by
  cases settles with
  | intro creditable rowFresh entryFresh read valuationFresh allocationFresh allocationRows
      receiptFresh grantFresh =>
    exact {
      allocated := by
        simp only [Table.rows_insert, List.map_append, allocationRows, tables.allocated]
        rfl
      quoted := by
        intro valuation member isXmr
        rcases (Table.mem_rows_insert valuationFresh).mp member with old | rfl
        · exact tables.quoted valuation old isXmr
        · cases isXmr
      native := by
        intro valuation member isBtc
        rcases (Table.mem_rows_insert valuationFresh).mp member with old | rfl
        · rcases tables.native valuation old isBtc with ⟨settlementId, row, settled, same⟩
          exact ⟨settlementId, row, Table.mem_entries_insert_old rowFresh settled, same⟩
        · exact ⟨_, _, Table.mem_entries_insert_new rowFresh, rfl⟩
      received := by
        intro receipt member
        rcases (Table.mem_rows_insert receiptFresh).mp member with old | rfl
        · rcases tables.received receipt old with ⟨valuation, valued, same⟩
          exact ⟨valuation, Table.mem_rows_insert_old valuationFresh valued, same⟩
        · exact ⟨_, Table.mem_rows_insert_new valuationFresh, rfl⟩
      positive := by
        intro receipt member
        rcases (Table.mem_rows_insert receiptFresh).mp member with old | rfl
        · exact tables.positive receipt old
        · exact Int.natCast_pos.mpr creditable.sats_pos
      linked := by
        intro receipt member settlementId isLinked
        rcases (Table.mem_rows_insert receiptFresh).mp member with old | rfl
        · exact Nat.le_succ_of_le (tables.linked receipt old settlementId isLinked)
        · cases isLinked
          exact Nat.le_refl _
      granted := by
        intro grant member
        rcases (Table.mem_rows_insert grantFresh).mp member with old | rfl
        · rcases tables.granted grant old with ⟨receipt, stored⟩
          exact ⟨receipt, Table.mem_entries_insert_old receiptFresh stored⟩
        · exact ⟨_, Table.mem_entries_insert_new receiptFresh⟩
      booked := by
        intro grant member entryId isEntry
        rcases (Table.mem_rows_insert grantFresh).mp member with old | rfl
        · exact Nat.le_succ_of_le (tables.booked grant old entryId isEntry)
        · cases isEntry
          exact Nat.le_refl _
      announced := by
        intro grant member seq isSeq
        rcases (Table.mem_rows_insert grantFresh).mp member with old | rfl
        · exact Nat.le_succ_of_le (tables.announced grant old seq isSeq)
        · cases isSeq
          exact Nat.le_refl _ }

theorem of_quiet (tables : CreditTables before) (quiet : Quiet scope before after) :
    CreditTables after := by
  cases quiet with
  | registers registers => exact tables.of_registers registers
  | holds _ holds => exact tables.of_holds holds
  | stores stores => exact tables.of_stores stores
  | unlocks => exact tables.of_unlocks _
  | grantsDust grants =>
    cases grants with
    | intro due _ fresh =>
      exact tables.of_grant due.stored (Nat.le_refl _) (Nat.le_refl _) (by simp) (by simp) fresh
  | begins begins => cases begins; exact { tables with }
  | moves moves => cases moves; exact { tables with }
  | cools => exact { tables with }
  | logs logs =>
    cases logs
    exact tables.mono rfl rfl rfl rfl rfl (Nat.le_refl _) (Nat.le_succ _)
  | strike => exact { tables with }

theorem of_booking (tables : CreditTables before) (booking : Booking scope before after) :
    CreditTables after := by
  cases booking with
  | settles settles => exact tables.of_settles settles
  | grants grants =>
    cases grants with
    | intro due _ _ _ entryFresh fresh =>
      exact tables.of_grant due.stored (Nat.le_succ _) (Nat.le_succ _)
        (by rintro _ ⟨⟩; exact Nat.le_refl _) (by rintro _ ⟨⟩; exact Nat.le_refl _) fresh
  | debits debits =>
    cases debits
    exact tables.mono rfl rfl rfl rfl rfl (Nat.le_succ _) (Nat.le_succ _)
  | announces announces =>
    cases announces
    exact tables.mono rfl rfl rfl rfl rfl (Nat.le_refl _) (Nat.le_succ _)

theorem valuation_of_allocation (tables : CreditTables before) {allocation : AllocationRow}
    (member : allocation ∈ before.creditAllocations.rows) :
    ∃ valuation ∈ before.creditValuations.rows, valuation.id = allocation.valuationId := by
  have id : allocation.valuationId ∈ before.creditValuations.rows.map Valuation.id := by
    rw [← tables.allocated]
    exact List.mem_map_of_mem member
  exact List.mem_map.mp id

theorem allocation_of_valuation (tables : CreditTables before) {valuation : Valuation}
    (member : valuation ∈ before.creditValuations.rows) :
    ∃ allocation ∈ before.creditAllocations.rows,
      allocation.valuationId = valuation.id := by
  have id : valuation.id ∈ before.creditAllocations.rows.map AllocationRow.valuationId := by
    rw [tables.allocated]
    exact List.mem_map_of_mem member
  exact List.mem_map.mp id

end CreditTables

/-! ## Valuations are kept -/

section Kept

variable {scope : Scope} {before after : Db} {valuation : Valuation}

theorem valuation_of_quiet (quiet : Quiet scope before after)
    (member : valuation ∈ before.creditValuations.rows) :
    valuation ∈ after.creditValuations.rows := by
  cases quiet with
  | registers registers =>
    cases registers with
    | intro _ valuationFresh => exact Table.mem_rows_insert_old valuationFresh member
  | holds _ holds => cases holds; exact member
  | stores stores => cases stores; exact member
  | unlocks => exact member
  | grantsDust grants => cases grants; exact member
  | begins begins => cases begins; exact member
  | moves moves => cases moves; exact member
  | cools => exact member
  | logs logs => cases logs; exact member
  | strike => exact member

theorem valuation_of_booking (booking : Booking scope before after)
    (member : valuation ∈ before.creditValuations.rows) :
    valuation ∈ after.creditValuations.rows := by
  cases booking with
  | settles settles =>
    cases settles with
    | intro _ _ _ _ valuationFresh => exact Table.mem_rows_insert_old valuationFresh member
  | grants grants => cases grants; exact member
  | debits debits => cases debits; exact member
  | announces announces => cases announces; exact member

theorem valuation_of_step [SerdeJson] {label : LedgerLabel}
    (step : LedgerStep before label after) (member : valuation ∈ before.creditValuations.rows) :
    valuation ∈ after.creditValuations.rows :=
  (ledgerStep_effect step).invariant (fun holds quiet => valuation_of_quiet quiet holds)
    (fun holds booking => valuation_of_booking booking holds) member

end Kept

end LightningGoats
