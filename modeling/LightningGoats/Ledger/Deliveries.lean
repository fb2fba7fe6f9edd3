import Mathlib.Algebra.Order.Group.Nat
import Mathlib.Data.List.Dedup
import LightningGoats.Ledger.Conservation
import LightningGoats.Ledger.Settlements

/-! # Deliveries over whole runs -/

namespace LightningGoats

open Outcome Relational

/-! ## The settled set -/

section Settled

variable {scope : Scope} {before after : Db}

theorem Quietly.settlements (quiet : Quietly scope before after) :
    after.settledPayments = before.settledPayments := by
  induction quiet with
  | refl => rfl
  | tail _ change induction => exact change.settlements.trans induction

theorem Effect.settlements (effect : Effect scope before after) (other : scope ≠ .payments) :
    after.settledPayments = before.settledPayments := by
  rcases effect with ⟨middle, quiet, ending⟩
  rcases ending with rfl | booking
  · exact Quietly.settlements quiet
  · have same := Quietly.settlements quiet
    cases booking with
    | settles => exact absurd rfl other
    | grants grants => cases grants; exact same
    | debits debits => cases debits; exact same
    | announces announces => cases announces; exact same

theorem scope_eq_payments {call : LedgerCall} (isPayments : call.scope = .payments) :
    ∃ payment, call = .recordPayment payment := by
  cases call
  case recordPayment payment => exact ⟨payment, rfl⟩
  all_goals cases isPayments

def creditedLabel (payment : SettledPayment) (now : Int) : LedgerLabel :=
  ⟨.recordPayment payment, now,
    .ok (.settlement (.credited payment.sats payment.addressUser payment.creditPool))⟩

def LedgerLabel.Delivers (source sourceId : String) (label : LedgerLabel) : Prop :=
  ∃ payment response, label.call = .recordPayment payment ∧ payment.source = source ∧
    payment.sourceId = sourceId ∧ label.result = .ok response

variable [SerdeJson] {label : LedgerLabel} {labels : List LedgerLabel}

theorem ledgerStep_settlements (step : LedgerStep before label after) :
    after.settledPayments = before.settledPayments ∨
      ∃ payment now, label = creditedLabel payment now ∧
        findSettlement payment.source payment.sourceId before = none ∧
        Settles payment before after := by
  by_cases isPayments : label.call.scope = .payments
  · rcases label with ⟨call, now, result⟩
    rcases scope_eq_payments isPayments with ⟨payment, rfl⟩
    rcases ledgerStep_cases step with ⟨_, _, rfl⟩ | ⟨response, succeeded, ran⟩
    · exact .inl rfl
    · simp only [LedgerCall.body, transact_eq_ok] at ran
      rcases ran with ⟨outcome, recorded, rfl⟩
      cases succeeded
      rcases (recordPayment_cases recorded).2.2 with ⟨_, rfl, _⟩ | ⟨rfl, absent, settles⟩
      · exact .inl rfl
      · exact .inr ⟨payment, now, rfl, absent, settles⟩
  · exact .inl ((ledgerStep_effect step).settlements isPayments)

theorem settlements_extend_step (step : LedgerStep before label after) :
    before.settledPayments.Extends after.settledPayments := by
  rcases ledgerStep_settlements step with same | ⟨payment, now, _, _, settles⟩
  · rw [same]
    exact .refl _
  · cases settles with
    | intro _ rowFresh _ _ _ _ _ _ _ => exact .insert _ _ rowFresh

theorem settlements_extend_run (run : LedgerRun before labels after) :
    before.settledPayments.Extends after.settledPayments := by
  induction run with
  | nil => exact .refl _
  | cons step _ induction => exact (settlements_extend_step step).trans induction

theorem settled_of_delivers {source sourceId : String} (step : LedgerStep before label after)
    (delivers : label.Delivers source sourceId) :
    ∃ row ∈ after.settledPayments.rows, row.source = source ∧ row.sourceId = sourceId := by
  rcases label with ⟨call, now, result⟩
  rcases delivers with ⟨payment, response, isCall, rfl, rfl, isResult⟩
  dsimp only at isCall isResult
  subst isCall isResult
  rcases ledgerStep_cases step with ⟨_, failed, _⟩ | ⟨_, _, ran⟩
  · cases failed
  · simp only [LedgerCall.body, transact_eq_ok] at ran
    rcases ran with ⟨outcome, recorded, _⟩
    rcases (recordPayment_cases recorded).2.2 with ⟨_, rfl, existing, found, _⟩ | ⟨_, _, settles⟩
    · rcases findSettlement_eq_some found with ⟨member, same⟩
      exact ⟨existing.2, Table.mem_rows_of_mem_entries member, same⟩
    · exact ⟨payment.settledRow, Table.mem_rows_of_mem_entries (recorded_of_settles settles).1,
        rfl, rfl⟩

/-- A settlement holds the data of the first delivery of its identity that
succeeded. -/
theorem first_delivery (run : LedgerRun Db.fresh labels after) {row : SettledPaymentRow}
    (settled : row ∈ after.settledPayments.rows) :
    ∃ earlier payment now later, labels = earlier ++ creditedLabel payment now :: later ∧
      payment.settledRow = row ∧
      ∀ label ∈ earlier, ¬ label.Delivers row.source row.sourceId := by
  let isSettled (db : Db) : Prop := row ∈ db.settledPayments.rows
  have wasAbsent : ¬ isSettled Db.fresh := by simp [isSettled, Db.fresh]
  rcases run.established wasAbsent settled with
    ⟨earlier, label, later, source, target, rfl, first, step, _, absent, present⟩
  rcases ledgerStep_settlements step with same | ⟨payment, now, rfl, unsettled, settles⟩
  · have wasThere : row ∈ source.settledPayments.rows := by
      rw [← same]
      exact present
    exact absurd wasThere absent
  · have isRow : payment.settledRow = row := by
      cases settles with
      | intro _ rowFresh _ _ _ _ _ _ _ =>
        rcases (Table.mem_rows_insert rowFresh).mp present with old | equal
        · exact absurd old absent
        · exact equal.symm
    refine ⟨earlier, payment, now, later, rfl, isRow, fun delivery member delivers => ?_⟩
    rcases List.append_of_mem member with ⟨before, between, rfl⟩
    rcases first.at_split with ⟨_, reached, _, delivered, rest⟩
    rcases settled_of_delivers delivered delivers with ⟨old, oldMember, sameIdentity⟩
    have stillThere := (settlements_extend_run rest).mem_rows oldMember
    subst isRow
    exact findSettlement_eq_none.mp unsettled old stillThere sameIdentity

end Settled

/-! ## One of everything -/

/-- A settlement has exactly one valuation, allocation, receipt, grant, entry
and event, all of its whole sats. -/
structure SettledOnce (db : Db) (settlementId : Nat) (row : SettledPaymentRow) : Prop where
  valuation : (db.creditValuations.rows.filter fun valuation =>
    valuation.id = btcId settlementId) = [btcValuation settlementId row]
  allocation : (db.creditAllocations.rows.filter fun allocation =>
    allocation.valuationId = btcId settlementId) = [row.allocation settlementId]
  provenance : ∃ receiptId ledgerId eventSeq event,
    (db.assetReceipts.entries.filter fun entry =>
      entry.2.btcSettlementId = some settlementId) =
        [(receiptId, btcReceipt settlementId row row.sats)] ∧
    (db.creditGrants.rows.filter fun grant => grant.receiptId = receiptId) =
      [row.grant receiptId ledgerId eventSeq] ∧
    (db.ledgerEntries.entries.filter fun entry =>
      entry.2.paymentSource = some row.source && entry.2.paymentSourceId = some row.sourceId) =
        [(ledgerId, row.entry)] ∧
    (db.eventLog.entries.filter fun entry => entry.2.settles row.source row.sourceId) =
      [(eventSeq, event)]

section Once

variable {db : Db}

theorem hasIdentity_length (db : Db) (source sourceId : String) :
    (db.settledPayments.rows.filter
      (SettledPaymentRow.hasIdentity source sourceId)).length ≤ 1 := by
  refine filter_length_le_one (db.settledPayments.rows_nodup fun row =>
    .inl (sameKey_iff.mpr ⟨_, rfl, rfl⟩)) fun left leftMember right rightMember isLeft isRight => ?_
  simp only [SettledPaymentRow.hasIdentity, Bool.and_eq_true, decide_eq_true_eq] at isLeft isRight
  exact db.settledPayments.row_eq_of_clash leftMember rightMember
    (.inl (sameKey_iff.mpr ⟨_, rfl, by rw [isLeft.1, isLeft.2, isRight.1, isRight.2]⟩))

theorem settledOnce (books : Books db) (provenance : Provenance db)
    {entry : Nat × SettledPaymentRow} (member : entry ∈ db.settledPayments.entries) :
    SettledOnce db entry.1 entry.2 := by
  have recorded := provenance.recorded entry member
  rcases recorded.provenance with
    ⟨receiptId, ledgerId, eventSeq, event, received, granted, booked, logged, settles⟩
  have onlyEntry := books.entries_of_settlement (Table.mem_rows_of_mem_entries member)
  refine ⟨?_, ?_, receiptId, ledgerId, eventSeq, event, ?_, ?_, ?_, ?_⟩
  · refine filter_eq_singleton (db.creditValuations.rows_nodup fun row =>
      .inl (sameKey_iff.mpr ⟨_, rfl, rfl⟩)) recorded.valuation (by simp [btcValuation])
      fun other otherMember same => ?_
    exact db.creditValuations.row_eq_of_clash otherMember recorded.valuation
      (.inl (sameKey_iff.mpr ⟨_, congrArg some (decide_eq_true_eq.mp same), rfl⟩))
  · refine filter_eq_singleton (db.creditAllocations.rows_nodup fun row =>
      sameKey_iff.mpr ⟨_, rfl, rfl⟩) recorded.allocation (by simp [SettledPaymentRow.allocation])
      fun other otherMember same => ?_
    exact db.creditAllocations.row_eq_of_clash otherMember recorded.allocation
      (sameKey_iff.mpr ⟨_, congrArg some (decide_eq_true_eq.mp same), rfl⟩)
  · refine filter_eq_singleton (Table.entries_nodup _) received (by simp [btcReceipt])
      fun other otherMember same => ?_
    exact db.assetReceipts.entry_eq_of_clash otherMember received
      (.inr (sameKey_iff.mpr ⟨_, decide_eq_true_eq.mp same, rfl⟩))
  · refine filter_eq_singleton (db.creditGrants.rows_nodup fun row =>
      .inl (sameKey_iff.mpr ⟨_, rfl, rfl⟩)) granted (by simp [SettledPaymentRow.grant])
      fun other otherMember same => ?_
    exact db.creditGrants.row_eq_of_clash otherMember granted
      (.inl (sameKey_iff.mpr ⟨_, congrArg some (decide_eq_true_eq.mp same), rfl⟩))
  · refine filter_eq_singleton (Table.entries_nodup _) booked (by simp [SettledPaymentRow.entry])
      fun other otherMember same => ?_
    have isEntry : other.2 ∈ db.ledgerEntries.rows.filter fun row =>
        row.paymentSource = some entry.2.source && row.paymentSourceId = some entry.2.sourceId :=
      List.mem_filter.mpr ⟨Table.mem_rows_of_mem_entries otherMember, same⟩
    rw [onlyEntry] at isEntry
    exact db.ledgerEntries.entry_eq_of_clash otherMember booked
      (sameKey_iff.mpr ⟨_, rfl, by rw [List.mem_singleton.mp isEntry]⟩)
  · refine eq_singleton_of_length ?_ (List.mem_filter.mpr ⟨logged, settles⟩)
    have announced := provenance.announced entry.2.source entry.2.sourceId
    have lengths : (db.eventLog.entries.filter fun logged =>
        logged.2.settles entry.2.source entry.2.sourceId).length =
          (db.eventLog.rows.filter (Event.settles entry.2.source entry.2.sourceId)).length := by
      simp [Table.rows, List.filter_map, Function.comp_def]
    rw [lengths, announced]
    exact hasIdentity_length db _ _

end Once

/-! ## Any order of deliveries -/

/-- Valid payments of pairwise distinct identities and hashes whose credit fits
the database. Repetitions are allowed. -/
structure Deliverable [SerdeJson] (payments : List SettledPayment) : Prop where
  accepted : ∀ payment ∈ payments, payment.Accepted
  identities : ∀ left ∈ payments, ∀ right ∈ payments, left ≠ right →
    ¬ (left.source = right.source ∧ left.sourceId = right.sourceId)
  hashes : ∀ left ∈ payments, ∀ right ∈ payments, left ≠ right →
    ∀ hash ∈ left.paymentHash, right.paymentHash ≠ some hash
  total : (payments.dedup.map SettledPayment.sats).sum ≤ maxAccountingUnits

/-- Some payments have been delivered, and nothing else has been booked. -/
structure Delivered (payments : List SettledPayment) (db : Db) : Prop where
  settled : ∀ row, row ∈ db.settledPayments.rows ↔
    ∃ payment ∈ payments, payment.settledRow = row
  credited : creditTotal db = (payments.dedup.map SettledPayment.sats).sum

/-- The credit of distinct payments among some is at most the credit of all. -/
theorem sum_sats_le {chosen payments : List SettledPayment} (distinct : chosen.Nodup)
    (among : ∀ payment ∈ chosen, payment ∈ payments) :
    (chosen.map SettledPayment.sats).sum ≤ (payments.dedup.map SettledPayment.sats).sum := by
  have within : chosen ⊆ payments.dedup := fun payment member =>
    List.mem_dedup.mpr (among payment member)
  rcases List.subperm_of_subset distinct within with ⟨arranged, sameMembers, sublist⟩
  calc (chosen.map SettledPayment.sats).sum = (arranged.map SettledPayment.sats).sum :=
        (sameMembers.map _).sum_eq.symm
    _ ≤ (payments.dedup.map SettledPayment.sats).sum :=
        (sublist.map _).sum_le_sum fun _ _ => Nat.zero_le _

theorem sum_sats_congr {left right : List SettledPayment}
    (sameMembers : ∀ payment, payment ∈ left ↔ payment ∈ right) :
    (left.dedup.map SettledPayment.sats).sum = (right.dedup.map SettledPayment.sats).sum := by
  have rearranged : left.dedup.Perm right.dedup :=
    (List.perm_ext_iff_of_nodup left.nodup_dedup right.nodup_dedup).mpr fun payment => by
      rw [List.mem_dedup, List.mem_dedup, sameMembers]
  exact (rearranged.map _).sum_eq

section Orders

variable [SerdeJson] {payments delivered : List SettledPayment} {payment : SettledPayment}
  {labels : List LedgerLabel} {before after : Db}

/-- The delivery of one more payment succeeds, whether it is the first or not. -/
theorem deliver_step (deliverable : Deliverable payments)
    (among : ∀ other ∈ payment :: delivered, other ∈ payments)
    (books : Books before) (tables : CreditTables before) (provenance : Provenance before)
    (isDelivered : Delivered delivered before) {now : Int}
    {result : Except LedgerError LedgerResponse}
    (step : LedgerStep before ⟨.recordPayment payment, now, result⟩ after) :
    (∃ outcome, result = .ok (.settlement outcome)) ∧
      Delivered (payment :: delivered) after := by
  have isAmong := among payment List.mem_cons_self
  have accepted := deliverable.accepted payment isAmong
  have executed : execute (.recordPayment payment) now before = (result, after) := step
  by_cases again : payment ∈ delivered
  · have settled := (isDelivered.settled payment.settledRow).mpr ⟨payment, again, rfl⟩
    rcases Table.mem_rows.mp settled with ⟨settlementId, member⟩
    have ran := recordPayment_again accepted (verifyNativeBtc_ok provenance member) member rfl rfl
      ⟨rfl, rfl, rfl, rfl, rfl⟩
    simp only [execute, LedgerCall.body, transact, ran] at executed
    cases executed
    refine ⟨⟨_, rfl⟩, fun row => ?_, ?_⟩
    · rw [isDelivered.settled row]
      constructor
      · rintro ⟨other, member, isRow⟩
        exact ⟨other, List.mem_cons_of_mem _ member, isRow⟩
      · rintro ⟨other, member, isRow⟩
        rcases List.mem_cons.mp member with rfl | old
        · exact ⟨other, again, isRow⟩
        · exact ⟨other, old, isRow⟩
    · rw [List.dedup_cons_of_mem again]
      exact isDelivered.credited
  · have different : ∀ other ∈ delivered, other ≠ payment := fun other member equal =>
      again (equal ▸ member)
    have isNew : payment.IsNew before := by
      constructor
      · intro row member same
        rcases (isDelivered.settled row).mp member with ⟨other, otherMember, rfl⟩
        exact deliverable.identities other (among other (List.mem_cons_of_mem _ otherMember))
          payment isAmong (different other otherMember) same
      · intro row member hash isHash collides
        rcases (isDelivered.settled row).mp member with ⟨other, otherMember, rfl⟩
        exact deliverable.hashes payment isAmong other
          (among other (List.mem_cons_of_mem _ otherMember)) (different other otherMember).symm
          hash isHash collides
    have distinct : (payment :: delivered.dedup).Nodup :=
      List.nodup_cons.mpr ⟨fun member => again (List.mem_dedup.mp member), List.nodup_dedup _⟩
    have worth := sum_sats_le distinct fun other member => among other (by
      rcases List.mem_cons.mp member with rfl | old
      · exact List.mem_cons_self
      · exact List.mem_cons_of_mem _ (List.mem_dedup.mp old))
    rw [List.map_cons, List.sum_cons] at worth
    have fits := deliverable.total
    have room : creditTotal before + payment.sats ≤ maxI64 := by
      rw [isDelivered.credited, maxI64]
      omega
    rcases recordPayment_new accepted isNew books tables room with ⟨settledDb, ran, settles⟩
    simp only [execute, LedgerCall.body, transact, ran] at executed
    cases executed
    refine ⟨⟨_, rfl⟩, fun row => ?_, ?_⟩
    · cases settles with
      | intro _ rowFresh _ _ _ _ _ _ _ =>
        rw [Table.mem_rows_insert rowFresh, isDelivered.settled row]
        constructor
        · rintro (⟨other, member, isRow⟩ | rfl)
          · exact ⟨other, List.mem_cons_of_mem _ member, isRow⟩
          · exact ⟨payment, List.mem_cons_self, rfl⟩
        · rintro ⟨other, member, isRow⟩
          rcases List.mem_cons.mp member with rfl | old
          · exact .inr isRow.symm
          · exact .inl ⟨other, old, isRow⟩
    · cases settles with
      | intro _ _ entryFresh _ _ _ _ _ _ =>
        have total := @Books.creditTotal_insert before { before with
          ledgerEntries := before.ledgerEntries.insert _ entryFresh } _ entryFresh rfl
        refine total.trans ?_
        have delta : payment.settledEntry.deltaSats = payment.sats := rfl
        rw [isDelivered.credited, List.dedup_cons_of_notMem again, List.map_cons,
          List.sum_cons, delta]
        omega

/-- Every delivery of a run succeeds, and what has been delivered is settled. -/
theorem deliver_run (deliverable : Deliverable payments) (run : LedgerRun before labels after)
    {remaining : List SettledPayment}
    (calls : labels.map LedgerLabel.call = remaining.map LedgerCall.recordPayment)
    (among : ∀ other ∈ remaining.reverse ++ delivered, other ∈ payments)
    (books : Books before) (tables : CreditTables before) (provenance : Provenance before)
    (isDelivered : Delivered delivered before) :
    (∀ label ∈ labels, ∃ outcome, label.result = .ok (.settlement outcome)) ∧
      Delivered (remaining.reverse ++ delivered) after := by
  induction run generalizing remaining delivered with
  | nil =>
      have none := List.map_eq_nil_iff.mp calls.symm
      subst none
      exact ⟨fun _ member => absurd member List.not_mem_nil, isDelivered⟩
  | @cons before middle after label labels step rest induction =>
      cases remaining with
      | nil => cases calls
      | cons payment remaining =>
          rw [List.map_cons, List.map_cons, List.cons.injEq] at calls
          rcases label with ⟨call, now, result⟩
          dsimp only at calls
          rcases calls with ⟨rfl, calls⟩
          have rearranged : (payment :: remaining).reverse ++ delivered =
              remaining.reverse ++ payment :: delivered := by simp
          rw [rearranged] at among ⊢
          have effect := ledgerStep_effect step
          rcases deliver_step deliverable
            (fun other member => among other (List.mem_append_right _ member)) books tables
            provenance isDelivered step with ⟨succeeded, next⟩
          rcases induction calls among
            (effect.invariant Books.of_quiet Books.of_booking books)
            (effect.invariant CreditTables.of_quiet CreditTables.of_booking tables)
            (effect.invariant Provenance.of_quiet Provenance.of_booking provenance) next with
            ⟨others, final⟩
          refine ⟨fun label member => ?_, final⟩
          rcases List.mem_cons.mp member with rfl | inRest
          · exact succeeded
          · exact others label inRest

theorem deliver_fresh (deliverable : Deliverable payments)
    (run : LedgerRun Db.fresh labels after)
    (calls : labels.map LedgerLabel.call = payments.map LedgerCall.recordPayment) :
    (∀ label ∈ labels, ∃ outcome, label.result = .ok (.settlement outcome)) ∧
      Delivered payments after := by
  have nothing : Delivered [] Db.fresh := ⟨by simp [Db.fresh], rfl⟩
  rcases deliver_run deliverable run calls (by simp) Books.ofFresh CreditTables.ofFresh
    Provenance.ofFresh nothing with ⟨succeeded, final⟩
  rw [List.append_nil] at final
  have sameMembers : ∀ payment, payment ∈ payments.reverse ↔ payment ∈ payments :=
    fun _ => List.mem_reverse
  refine ⟨succeeded, fun row => ?_, ?_⟩
  · rw [final.settled row]
    simp
  · rw [final.credited, sum_sats_congr sameMembers]

end Orders

theorem Deliverable.of_sameMembers [SerdeJson] {left right : List SettledPayment}
    (deliverable : Deliverable left)
    (sameMembers : ∀ payment, payment ∈ left ↔ payment ∈ right) : Deliverable right where
  accepted payment member := deliverable.accepted payment ((sameMembers payment).mpr member)
  identities one oneMember other otherMember := deliverable.identities one
    ((sameMembers one).mpr oneMember) other ((sameMembers other).mpr otherMember)
  hashes one oneMember other otherMember := deliverable.hashes one
    ((sameMembers one).mpr oneMember) other ((sameMembers other).mpr otherMember)
  total := sum_sats_congr sameMembers ▸ deliverable.total

/-! ## Settling once -/

/-- What holds of the settlements after the calls of `labels`. -/
structure SettlesOnce [SerdeJson] (labels : List LedgerLabel) (db : Db) : Prop where
  unique : ∀ source sourceId, (db.settledPayments.rows.filter
    (SettledPaymentRow.hasIdentity source sourceId)).length ≤ 1
  first : ∀ row ∈ db.settledPayments.rows, ∃ earlier payment now later,
    labels = earlier ++ creditedLabel payment now :: later ∧ payment.settledRow = row ∧
      ∀ label ∈ earlier, ¬ label.Delivers row.source row.sourceId
  kept : ∀ label ∈ labels, ∀ source sourceId, label.Delivers source sourceId →
    ∃ row ∈ db.settledPayments.rows, row.source = source ∧ row.sourceId = sourceId
  once : ∀ entry ∈ db.settledPayments.entries, SettledOnce db entry.1 entry.2
  verified : ∀ entry ∈ db.settledPayments.entries, verifyNativeBtc entry.1 db = .ok ()
  again : ∀ (payment : SettledPayment) now, ∀ row ∈ db.settledPayments.rows,
    row.source = payment.source → row.sourceId = payment.sourceId → payment.Accepted →
    payment.Redelivers payment.amountMsat row →
      execute (.recordPayment payment) now db = (.ok (.settlement .duplicate), db)
  contradicts : ∀ (payment : SettledPayment) now, ∀ row ∈ db.settledPayments.rows,
    row.source = payment.source → row.sourceId = payment.sourceId →
    ¬ payment.Redelivers payment.amountMsat row →
      ∃ error, execute (.recordPayment payment) now db = (.error error, db)
  collides : ∀ (payment : SettledPayment) now, ∀ row ∈ db.settledPayments.rows,
    ¬ (row.source = payment.source ∧ row.sourceId = payment.sourceId) →
    (∃ hash, payment.paymentHash = some hash ∧ row.paymentHash = some hash) →
      ∃ error, execute (.recordPayment payment) now db = (.error error, db)

section Once

variable [SerdeJson] {labels : List LedgerLabel} {db : Db}

theorem execute_refused {payment : SettledPayment} {now : Int}
    (refused : ∃ error, recordPayment payment db = .error error) :
    ∃ error, execute (.recordPayment payment) now db = (.error error, db) := by
  rcases refused with ⟨error, failed⟩
  exact ⟨error, by rw [execute, LedgerCall.body, transact_error.mpr failed]⟩

theorem settlesOnce_of_run (run : LedgerRun Db.fresh labels db) : SettlesOnce labels db := by
  have books := Books.of_run run
  have provenance := Provenance.of_run run
  refine ⟨hasIdentity_length db, fun row settled => first_delivery run settled, ?_,
    fun entry member => settledOnce books provenance member,
    fun entry member => verifyNativeBtc_ok provenance member, ?_, ?_, ?_⟩
  · intro label member source sourceId delivers
    rcases List.append_of_mem member with ⟨earlier, later, rfl⟩
    rcases run.at_split with ⟨_, target, _, step, rest⟩
    rcases settled_of_delivers step delivers with ⟨row, settled, same⟩
    exact ⟨row, (settlements_extend_run rest).mem_rows settled, same⟩
  · intro payment now row settled source sourceId accepted redelivers
    rcases Table.mem_rows.mp settled with ⟨settlementId, member⟩
    have ran := recordPayment_again accepted (verifyNativeBtc_ok provenance member) member
      source sourceId redelivers
    simp only [execute, LedgerCall.body, transact, ran]
    rfl
  · intro payment now row settled source sourceId differs
    refine execute_refused ?_
    rcases Table.mem_rows.mp settled with ⟨settlementId, member⟩
    by_cases accepted : payment.Accepted
    · exact ⟨_, recordPayment_contradicts accepted member source sourceId differs⟩
    · exact recordPayment_rejects accepted
  · rintro payment now row settled other ⟨hash, hashed, collides⟩
    refine execute_refused ?_
    by_cases accepted : payment.Accepted
    · cases search : findSettlement payment.source payment.sourceId db with
      | none => exact ⟨_, recordPayment_collides accepted search hashed settled collides⟩
      | some existing =>
          rcases findSettlement_eq_some search with ⟨member, source, sourceId⟩
          refine ⟨_, recordPayment_contradicts accepted member source sourceId fun redelivers => ?_⟩
          have sameRow := db.settledPayments.row_eq_of_clash settled
            (Table.mem_rows_of_mem_entries member)
            (.inr (sameKey_iff.mpr ⟨hash, collides, redelivers.1.trans hashed⟩))
          exact other (sameRow ▸ ⟨source, sourceId⟩)
    · exact recordPayment_rejects accepted

end Once

/-- In every run each identity is settled at most once, with the data of its first
delivery and one of each provenance row; later deliveries change nothing. Runs
that deliver the same valid payments end with the same settlements and balance,
whatever the order and the repetitions. -/
theorem settlements_once [SerdeJson] :
    (∀ labels db, LedgerRun Db.fresh labels db → SettlesOnce labels db) ∧
    ∀ left right : List SettledPayment, Deliverable left →
      (∀ payment, payment ∈ left ↔ payment ∈ right) →
      ∀ leftLabels leftDb rightLabels rightDb,
        LedgerRun Db.fresh leftLabels leftDb →
        leftLabels.map LedgerLabel.call = left.map LedgerCall.recordPayment →
        LedgerRun Db.fresh rightLabels rightDb →
        rightLabels.map LedgerLabel.call = right.map LedgerCall.recordPayment →
          (∀ label ∈ leftLabels ++ rightLabels,
            ∃ outcome, label.result = .ok (.settlement outcome)) ∧
          (∀ row, row ∈ leftDb.settledPayments.rows ↔ row ∈ rightDb.settledPayments.rows) ∧
          (∀ row, row ∈ leftDb.settledPayments.rows ↔
            ∃ payment ∈ left, payment.settledRow = row) ∧
          ∃ credit, feedCreditInTransaction leftDb = .ok credit ∧
            feedCreditInTransaction rightDb = .ok credit := by
  refine ⟨fun labels db run => settlesOnce_of_run run, ?_⟩
  intro left right deliverable sameMembers leftLabels leftDb rightLabels rightDb leftRun leftCalls
    rightRun rightCalls
  rcases deliver_fresh deliverable leftRun leftCalls with ⟨leftOk, leftDelivered⟩
  rcases deliver_fresh (deliverable.of_sameMembers sameMembers) rightRun rightCalls with
    ⟨rightOk, rightDelivered⟩
  refine ⟨fun label member => ?_, fun row => ?_, leftDelivered.settled, ?_⟩
  · rcases List.mem_append.mp member with inLeft | inRight
    · exact leftOk label inLeft
    · exact rightOk label inRight
  · rw [leftDelivered.settled, rightDelivered.settled]
    simp only [sameMembers]
  · rcases (Books.of_run leftRun).readable with ⟨leftCredit, leftRead⟩
    rcases (Books.of_run rightRun).readable with ⟨rightCredit, rightRead⟩
    have sameCredit : (leftCredit : Int) = rightCredit := by
      rw [feedCredit_total leftRead, feedCredit_total rightRead, leftDelivered.credited,
        rightDelivered.credited, sum_sats_congr sameMembers]
    exact ⟨leftCredit, leftRead, by rw [rightRead, Int.ofNat_inj.mp sameCredit]⟩

/-- Two payments of 5 and 7 sats, the first delivered twice in one of the runs. -/
def secondPayment : SettledPayment :=
  { examplePayment with sourceId := "second", amountMsat := 7000 }

theorem settlements_once_example :
    let left := [examplePayment, secondPayment, examplePayment]
    let right := [secondPayment, examplePayment]
    let leftCalls := left.map fun payment => (LedgerCall.recordPayment payment, 11)
    let rightCalls := right.map fun payment => (LedgerCall.recordPayment payment, 12)
    ∃ credit, feedCreditInTransaction (@replay exampleJson leftCalls Db.fresh) = .ok credit ∧
      feedCreditInTransaction (@replay exampleJson rightCalls Db.fresh) = .ok credit := by
  intro left right leftCalls rightCalls
  have deliverable : @Deliverable exampleJson left := by
    refine @Deliverable.mk exampleJson _ (fun payment member => ?_) (by decide +kernel)
      (by decide +kernel) (by decide +kernel)
    have isExample : payment = examplePayment ∨ payment = secondPayment := by
      simpa [left, or_comm, or_left_comm] using member
    rcases isExample with rfl | rfl
    · exact @SettledPayment.Accepted.mk exampleJson _ (by decide +kernel) (by decide +kernel)
    · exact @SettledPayment.Accepted.mk exampleJson _ (by decide +kernel) (by decide +kernel)
  have sameMembers : ∀ payment, payment ∈ left ↔ payment ∈ right := by
    intro payment
    simp only [left, right, List.mem_cons, List.not_mem_nil, or_false]
    tauto
  exact ((@settlements_once exampleJson).2 left right deliverable sameMembers _ _ _ _
    (@replay_run exampleJson leftCalls Db.fresh) rfl
    (@replay_run exampleJson rightCalls Db.fresh) rfl).2.2.2

end LightningGoats
