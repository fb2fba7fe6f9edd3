import LightningGoats.Ledger.Announcements

/-! # The provenance of native settlements

Every settlement keeps the valuation, the allocation, the receipt, the grant,
the entry and the event it was recorded with, whatever is committed later.
-/

namespace LightningGoats

open Outcome Relational

namespace SettledPaymentRow

def sats (row : SettledPaymentRow) : Int :=
  row.amountMsat / 1000

def allocation (row : SettledPaymentRow) (settlementId : Nat) : AllocationRow :=
  ⟨btcId settlementId, row.sats, row.sats, none⟩

def grant (row : SettledPaymentRow) (receiptId ledgerId eventSeq : Nat) : CreditGrant :=
  ⟨receiptId, row.sats, row.sats, row.sats, some ledgerId, some eventSeq⟩

end SettledPaymentRow

def Event.settles (source sourceId : String) (event : Event) : Bool :=
  event.eventType = "payment_received" &&
    event.payload.lookup "source" = some (.string source) &&
    event.payload.lookup "source_id" = some (.string sourceId)

def SettledPaymentRow.hasIdentity (source sourceId : String) (row : SettledPaymentRow) : Bool :=
  row.source = source && row.sourceId = sourceId

structure Recorded (db : Db) (settlementId : Nat) (row : SettledPaymentRow) : Prop where
  positive : 0 < row.amountMsat
  aligned : row.amountMsat % 1000 = 0
  valuation : btcValuation settlementId row ∈ db.creditValuations.rows
  allocation : row.allocation settlementId ∈ db.creditAllocations.rows
  provenance : ∃ receiptId ledgerId eventSeq event,
    (receiptId, btcReceipt settlementId row row.sats) ∈ db.assetReceipts.entries ∧
    row.grant receiptId ledgerId eventSeq ∈ db.creditGrants.rows ∧
    (ledgerId, row.entry) ∈ db.ledgerEntries.entries ∧
    (eventSeq, event) ∈ db.eventLog.entries ∧
    event.settles row.source row.sourceId = true

/-! ## What later changes keep -/

section Native

variable {allocation : AllocationRow} {intentId : Uuid}

theorem hold_native {reason : CreditHold}
    (native : isXmrKey allocation.valuationId = false) :
    allocation.hold (xmrId intentId) reason = allocation := by
  have other : allocation.valuationId ≠ xmrId intentId := fun same => by
    rw [same, isXmrKey_xmrId] at native
    cases native
  exact if_neg other

theorem setWatermarks_native {eligible credited : Int}
    (native : isXmrKey allocation.valuationId = false) :
    allocation.setWatermarks (xmrId intentId) eligible credited = allocation := by
  have other : allocation.valuationId ≠ xmrId intentId := fun same => by
    rw [same, isXmrKey_xmrId] at native
    cases native
  exact if_neg other

theorem unlock_unlocked {receiptId : Nat} {entry : Nat × AssetReceipt}
    (unlocked : entry.2.unlocked = true) : entry.2.unlock receiptId entry.1 = entry.2 := by
  rcases entry with ⟨rowid, receipt⟩
  dsimp only at unlocked ⊢
  unfold AssetReceipt.unlock
  split
  · cases receipt
    simp_all
  · rfl

end Native

/-- The rows that native settlements are recorded with are still there. -/
structure NativeKept (before after : Db) : Prop where
  valuations : ∀ valuation ∈ before.creditValuations.rows,
    valuation ∈ after.creditValuations.rows
  allocations : ∀ allocation ∈ before.creditAllocations.rows,
    isXmrKey allocation.valuationId = false → allocation ∈ after.creditAllocations.rows
  receipts : ∀ entry ∈ before.assetReceipts.entries, entry.2.unlocked = true →
    entry ∈ after.assetReceipts.entries
  grants : ∀ grant ∈ before.creditGrants.rows, grant ∈ after.creditGrants.rows
  ledger : ∀ entry ∈ before.ledgerEntries.entries, entry ∈ after.ledgerEntries.entries
  log : ∀ entry ∈ before.eventLog.entries, entry ∈ after.eventLog.entries

namespace NativeKept

variable {scope : Scope} {before middle after : Db}

theorem refl (db : Db) : NativeKept db db :=
  ⟨fun _ valued => valued, fun _ allocated _ => allocated, fun _ received _ => received,
    fun _ granted => granted, fun _ booked => booked, fun _ logged => logged⟩

theorem trans (left : NativeKept before middle) (right : NativeKept middle after) :
    NativeKept before after where
  valuations valuation valued := right.valuations valuation (left.valuations valuation valued)
  allocations allocation allocated native :=
    right.allocations allocation (left.allocations allocation allocated native) native
  receipts entry received unlocked :=
    right.receipts entry (left.receipts entry received unlocked) unlocked
  grants grant granted := right.grants grant (left.grants grant granted)
  ledger entry booked := right.ledger entry (left.ledger entry booked)
  log entry logged := right.log entry (left.log entry logged)

theorem of_quiet (quiet : Quiet scope before after) : NativeKept before after := by
  cases quiet with
  | registers registers =>
      cases registers with
      | intro _ valuationFresh allocationFresh =>
        exact { refl before with
          valuations := fun _ valued => Table.mem_rows_insert_old valuationFresh valued
          allocations := fun _ allocated _ =>
            Table.mem_rows_insert_old allocationFresh allocated }
  | holds _ holds =>
      cases holds with
      | intro conflicts =>
        refine { refl before with allocations := fun allocation allocated native => ?_ }
        simp only [holdAllocation, Table.rows_update]
        exact List.mem_map.mpr ⟨allocation, allocated, hold_native native⟩
  | stores stores =>
      cases stores with
      | intro _ _ _ _ _ _ _ _ fresh =>
        exact { refl before with
          receipts := fun _ received _ => Table.mem_entries_insert_old fresh received }
  | unlocks =>
      refine { refl before with receipts := fun entry received unlocked => ?_ }
      exact List.mem_map.mpr ⟨entry, received, by rw [unlock_unlocked unlocked]⟩
  | grantsDust grants =>
      cases grants with
      | intro _ _ grantFresh =>
        refine { refl before with
          allocations := fun allocation allocated native => ?_
          grants := fun _ granted => Table.mem_rows_insert_old grantFresh granted }
        simp only [CreditUpdate.allocations, Table.rows_update]
        exact List.mem_map.mpr ⟨allocation, allocated, setWatermarks_native native⟩
  | begins begins => cases begins; exact { refl before with }
  | moves moves => cases moves; exact { refl before with }
  | cools => exact { refl before with }
  | logs logs =>
      cases logs
      exact { refl before with
        log := fun _ logged => Table.mem_entries_insert_old (noClash_fresh _ _) logged }
  | strike => exact { refl before with }

theorem of_booking (booking : Booking scope before after) : NativeKept before after := by
  cases booking with
  | settles settles =>
      cases settles with
      | intro _ _ entryFresh _ valuationFresh _ allocationRows receiptFresh grantFresh =>
        refine {
          valuations := fun _ valued => Table.mem_rows_insert_old valuationFresh valued
          allocations := fun allocation allocated _ => ?_
          receipts := fun _ received _ => Table.mem_entries_insert_old receiptFresh received
          grants := fun _ granted => Table.mem_rows_insert_old grantFresh granted
          ledger := fun _ booked => Table.mem_entries_insert_old entryFresh booked
          log := fun _ logged => Table.mem_entries_insert_old (noClash_fresh _ _) logged }
        rw [allocationRows]
        exact List.mem_append_left _ allocated
  | grants grants =>
      cases grants with
      | intro _ _ _ _ entryFresh grantFresh =>
        refine { refl before with
          allocations := fun allocation allocated native => ?_
          grants := fun _ granted => Table.mem_rows_insert_old grantFresh granted
          ledger := fun _ booked => Table.mem_entries_insert_old entryFresh booked
          log := fun _ logged => Table.mem_entries_insert_old (noClash_fresh _ _) logged }
        simp only [CreditUpdate.allocations, Table.rows_update]
        exact List.mem_map.mpr ⟨allocation, allocated, setWatermarks_native native⟩
  | debits debits =>
      cases debits with
      | intro _ _ _ _ _ _ entryFresh _ =>
        exact { refl before with
          ledger := fun _ booked => Table.mem_entries_insert_old entryFresh booked
          log := fun _ logged => Table.mem_entries_insert_old (noClash_fresh _ _) logged }
  | announces announces =>
      cases announces
      exact { refl before with
        log := fun _ logged => Table.mem_entries_insert_old (noClash_fresh _ _) logged }

theorem of_run [SerdeJson] {labels : List LedgerLabel} (run : LedgerRun before labels after) :
    NativeKept before after :=
  ledgerRun_relates refl trans of_quiet of_booking run

end NativeKept

theorem Recorded.mono {before after : Db} {settlementId : Nat} {row : SettledPaymentRow}
    (recorded : Recorded before settlementId row) (kept : NativeKept before after) :
    Recorded after settlementId row := by
  rcases recorded.provenance with
    ⟨receiptId, ledgerId, eventSeq, event, received, granted, booked, logged, settles⟩
  exact {
    positive := recorded.positive
    aligned := recorded.aligned
    valuation := kept.valuations _ recorded.valuation
    allocation := kept.allocations _ recorded.allocation (isXmrKey_btcId settlementId)
    provenance := ⟨receiptId, ledgerId, eventSeq, event, kept.receipts _ received rfl,
      kept.grants _ granted, kept.ledger _ booked, kept.log _ logged, settles⟩ }

structure Backed (db : Db) (settlementId : Nat) (row : SettledPaymentRow) : Prop where
  aligned : row.amountMsat % 1000 = 0
  valuation : btcValuation settlementId row ∈ db.creditValuations.rows
  allocation : row.allocation settlementId ∈ db.creditAllocations.rows
  provenance : ∃ receiptId ledgerId eventSeq entry,
    (receiptId, btcReceipt settlementId row row.sats) ∈ db.assetReceipts.entries ∧
    ⟨receiptId, row.sats, row.sats, row.sats, some ledgerId, eventSeq⟩ ∈ db.creditGrants.rows ∧
    (ledgerId, entry) ∈ db.ledgerEntries.entries ∧ entry.deltaSats = row.sats ∧
    entry.sourceKey = paymentKey row.source row.sourceId ∧ entry.entryType = "HERD_RECEIPT"

theorem Recorded.backed {db : Db} {settlementId : Nat} {row : SettledPaymentRow}
    (recorded : Recorded db settlementId row) : Backed db settlementId row := by
  rcases recorded.provenance with
    ⟨receiptId, ledgerId, eventSeq, _, received, granted, booked, _, _⟩
  exact ⟨recorded.aligned, recorded.valuation, recorded.allocation, receiptId, ledgerId,
    some eventSeq, row.entry, received, granted, booked, rfl, rfl, rfl⟩

namespace Backed

variable {before after : Db} {settlementId : Nat} {row : SettledPaymentRow}

theorem mono (backed : Backed before settlementId row) (kept : NativeKept before after) :
    Backed after settlementId row := by
  rcases backed.provenance with
    ⟨receiptId, ledgerId, eventSeq, entry, received, granted, booked, isEntry⟩
  exact ⟨backed.aligned, kept.valuations _ backed.valuation,
    kept.allocations _ backed.allocation (isXmrKey_btcId settlementId), receiptId, ledgerId,
    eventSeq, entry, kept.receipts _ received rfl, kept.grants _ granted, kept.ledger _ booked,
    isEntry⟩

theorem verified (backed : Backed after settlementId row)
    (settled : (settlementId, row) ∈ after.settledPayments.entries) :
    verifyNativeBtc settlementId after = .ok () := by
  rcases backed.provenance with
    ⟨receiptId, ledgerId, eventSeq, entry, received, granted, booked, delta, key, isReceipt⟩
  refine ensure_of ?_
  rw [hasNativeProvenance, Table.get?_eq_some.mpr settled, Option.any_some]
  refine List.any_eq_true.mpr ⟨_, received, List.any_eq_true.mpr ⟨_, backed.valuation,
    List.any_eq_true.mpr ⟨_, backed.allocation, List.any_eq_true.mpr ⟨_, granted,
      List.any_eq_true.mpr ⟨_, booked, ?_⟩⟩⟩⟩⟩
  have sats : entry.deltaSats = row.amountMsat / 1000 := delta
  simp [provenanceMatches, btcReceipt, btcValuation, SettledPaymentRow.allocation,
    SettledPaymentRow.sats, backed.aligned, sats, key, isReceipt]

end Backed

/-! ## Settling records everything -/

section Settling

variable {before after : Db} {payment : SettledPayment}

theorem SettledPayment.settledRow_sats (payment : SettledPayment) :
    payment.settledRow.sats = payment.sats :=
  payment.settledRow_amountMsat_div

theorem announcement_settles (payment : SettledPayment) (credited credit : Nat)
    (source sourceId : String) :
    Event.settles source sourceId ⟨"payment_received", payment.announcement credited credit⟩ =
      payment.settledRow.hasIdentity source sourceId := by
  have sources : (payment.announcement credited credit).lookup "source" =
      some (.string payment.source) := rfl
  have ids : (payment.announcement credited credit).lookup "source_id" =
      some (.string payment.sourceId) := rfl
  rw [Bool.eq_iff_iff]
  simp only [Event.settles, SettledPaymentRow.hasIdentity, Bool.and_eq_true,
    decide_eq_true_eq, sources, ids, Option.some.injEq, JsonValue.string.injEq, true_and]
  exact Iff.rfl

theorem recorded_of_settles (settles : Settles payment before after) :
    (before.settledPayments.nextRowid, payment.settledRow) ∈ after.settledPayments.entries ∧
      Recorded after before.settledPayments.nextRowid payment.settledRow := by
  have sats := payment.settledRow_sats
  cases settles with
  | @intro credit allocations creditable rowFresh entryFresh _ valuationFresh _ allocationRows
      receiptFresh grantFresh =>
    have amount : payment.settledRow.amountMsat = payment.amountMsat := rfl
    have positive := creditable.positive
    have aligned := creditable.aligned
    refine ⟨Table.mem_entries_insert_new rowFresh, ?_, ?_,
      Table.mem_rows_insert_new valuationFresh, ?_, ?_⟩
    · rw [amount]
      omega
    · rw [amount]
      omega
    · rw [SettledPaymentRow.allocation, sats, allocationRows]
      exact List.mem_append_right _ (List.mem_singleton_self _)
    · rw [sats]
      refine ⟨before.assetReceipts.nextRowid, before.ledgerEntries.nextRowid,
        before.eventLog.nextRowid, _, Table.mem_entries_insert_new receiptFresh, ?_, ?_,
        Table.mem_entries_insert_new (noClash_fresh _ _), ?_⟩
      · rw [SettledPaymentRow.grant, sats]
        exact Table.mem_rows_insert_new grantFresh
      · rw [← payment.settledEntry_eq]
        exact Table.mem_entries_insert_new entryFresh
      · rw [announcement_settles]
        simp [SettledPaymentRow.hasIdentity]

end Settling

/-! ## Runs -/

theorem Quiet.settlements {scope : Scope} {before after : Db}
    (quiet : Quiet scope before after) : after.settledPayments = before.settledPayments := by
  cases quiet with
  | registers registers => cases registers; rfl
  | holds _ holds => cases holds; rfl
  | stores stores => cases stores; rfl
  | unlocks => rfl
  | grantsDust grants => cases grants; rfl
  | begins begins => cases begins; rfl
  | moves moves => cases moves; rfl
  | cools => rfl
  | logs logs => cases logs; rfl
  | strike => rfl

structure Provenance (db : Db) : Prop where
  recorded : ∀ entry ∈ db.settledPayments.entries, Recorded db entry.1 entry.2
  announced : ∀ source sourceId,
    (db.eventLog.rows.filter (Event.settles source sourceId)).length =
      (db.settledPayments.rows.filter (SettledPaymentRow.hasIdentity source sourceId)).length

namespace Provenance

variable {scope : Scope} {before after : Db}

theorem ofFresh : Provenance Db.fresh where
  recorded := by simp [Db.fresh]
  announced := fun _ _ => rfl

theorem announced_append (provenance : Provenance before) {event : Event}
    (other : ∀ source sourceId, event.settles source sourceId = false)
    (source sourceId : String) :
    ((before.eventLog.insert event (noClash_fresh _ _)).rows.filter
        (Event.settles source sourceId)).length =
      (before.settledPayments.rows.filter
        (SettledPaymentRow.hasIdentity source sourceId)).length := by
  rw [Table.rows_insert, List.filter_append, List.length_append, provenance.announced]
  simp [other]

theorem silent_settles {event : Event} (silent : event.Silent) (source sourceId : String) :
    event.settles source sourceId = false := by
  have notReceived : event.eventType ≠ "payment_received" := fun isReceived => by
    have carries := silent.2
    rw [Event.carriesBalance, isReceived] at carries
    cases carries
  simp [Event.settles, notReceived]

theorem of_quiet (provenance : Provenance before) (quiet : Quiet scope before after) :
    Provenance after := by
  have sameSettlements := quiet.settlements
  refine ⟨?_, ?_⟩
  · rw [sameSettlements]
    exact fun entry member => (provenance.recorded entry member).mono (.of_quiet quiet)
  · rcases quiet.silent.2 with unchanged | ⟨event, silent, appended⟩
    · rw [unchanged, sameSettlements]
      exact provenance.announced
    · rw [appended, sameSettlements]
      exact provenance.announced_append (silent_settles silent)

theorem of_booking (provenance : Provenance before) (booking : Booking scope before after) :
    Provenance after := by
  refine ⟨?_, ?_⟩
  · intro entry member
    cases booking with
    | @settles payment _ _ settles =>
        have isNew := recorded_of_settles settles
        have others : ∀ old ∈ before.settledPayments.entries, Recorded after old.1 old.2 :=
          fun old oldMember => (provenance.recorded old oldMember).mono (.of_booking (.settles settles))
        cases settles with
        | intro _ rowFresh _ _ _ _ _ _ _ =>
          rcases (Table.mem_entries_insert rowFresh).mp member with old | rfl
          · exact others entry old
          · exact isNew.2
    | grants grants =>
        have kept := fun old => (provenance.recorded entry old).mono (.of_booking (.grants grants))
        cases grants
        exact kept member
    | debits debits =>
        have kept := fun old => (provenance.recorded entry old).mono (.of_booking (.debits debits))
        cases debits
        exact kept member
    | announces announces =>
        have kept := fun old =>
          (provenance.recorded entry old).mono (.of_booking (.announces announces))
        cases announces
        exact kept member
  · intro source sourceId
    cases booking with
    | settles settles =>
        cases settles with
        | intro _ rowFresh _ _ _ _ _ _ _ =>
          simp only [Table.rows_insert, List.filter_append, List.length_append,
            provenance.announced, List.filter_cons, List.filter_nil, announcement_settles]
          split <;> rfl
    | grants grants =>
        cases grants
        exact provenance.announced_append (fun _ _ => rfl) source sourceId
    | debits debits =>
        cases debits
        exact provenance.announced_append (fun _ _ => rfl) source sourceId
    | announces announces =>
        cases announces with
        | intro _ _ reconciled =>
          refine provenance.announced_append (fun _ _ => ?_) source sourceId
          simp [Event.settles, reconciled]

theorem of_run [SerdeJson] {labels : List LedgerLabel}
    (run : LedgerRun Db.fresh labels after) : Provenance after :=
  ledgerRun_invariant of_quiet of_booking run ofFresh

end Provenance

end LightningGoats
