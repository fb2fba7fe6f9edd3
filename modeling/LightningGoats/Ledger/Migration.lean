import LightningGoats.Ledger.Deliveries
import LightningGoats.Ledger.Outbox

/-! # The asset credit migration

Version 10 adds valuations, allocations, receipts and grants, and gives every
payment settled before it the provenance that a payment settled after it gets.
A settlement whose ledger entry is missing or says something else fails the
migration, which runs in one transaction.
-/

namespace LightningGoats

open Outcome Relational

/-! ## The databases -/

/-- A database before the migration. Its rows satisfy the constraints that the
earlier migrations declare. -/
structure Version9 where
  settledPayments : Table SettledPaymentRow.Clash
  ledgerEntries : Table LedgerEntry.Clash
  feedAttempts : Table FeedAttempt.Clash
  eventLog : Table (@NoClash Event)
  feederCooldown : Int
  strikeReceiveRequests : Table StrikeReceiveRequestRow.Clash
  strikeInbox : Table InboxRow.Clash
  strikeRecoveryScan : Table ScanRow.Clash
  outbox : Outbox
  settled : ∀ row ∈ settledPayments.rows, row.Valid

structure Version10 where
  ledger : Db
  outbox : Outbox

inductive Database
  | version9 (db : Version9)
  | version10 (db : Version10)

def Version9.tables (old : Version9) : Db where
  settledPayments := old.settledPayments
  ledgerEntries := old.ledgerEntries
  feedAttempts := old.feedAttempts
  eventLog := old.eventLog
  feederCooldown := old.feederCooldown
  creditValuations := .empty
  creditAllocations := .empty
  assetReceipts := .empty
  creditGrants := .empty
  creditConflicts := .empty
  strikeReceiveRequests := old.strikeReceiveRequests
  strikeInbox := old.strikeInbox
  strikeRecoveryScan := old.strikeRecoveryScan

/-! ## The check -/

/-- `settled_payments p LEFT JOIN ledger_entries l`: the entries under the key
of a payment, or one absent entry. -/
def SettledPaymentRow.leftJoin (payment : SettledPaymentRow) (entries : List LedgerEntry) :
    List (Option LedgerEntry) :=
  match entries.filter fun entry =>
      entry.sourceKey = paymentKey payment.source payment.sourceId with
  | [] => [none]
  | found => found.map some

def SettledPaymentRow.isCorrupt (payment : SettledPaymentRow) (entry : Option LedgerEntry) :
    Bool :=
  payment.amountMsat % 1000 ≠ 0 ||
    match entry with
    | none => true
    | some entry =>
        entry.entryType ≠ "HERD_RECEIPT" || entry.deltaSats ≠ payment.amountMsat / 1000 ||
          entry.paymentSource ≠ some payment.source ||
          entry.paymentSourceId ≠ some payment.sourceId ||
          entry.addressUser ≠ some payment.addressUser ||
          entry.creditPool ≠ some payment.creditPool || entry.paymentHash ≠ payment.paymentHash

/-- What the migration inserts into `credit_migration_check`. -/
def Version9.migrationCheck (old : Version9) : Nat :=
  if old.settledPayments.rows.any fun payment =>
      (payment.leftJoin old.ledgerEntries.rows).any payment.isCorrupt
  then 0 else 1

/-! ## The backfill -/

/-- `INSERT INTO … SELECT`: the selected rows one after the other. The rows have
to satisfy the `CHECK` constraints, the unique indexes and the foreign keys. -/
def insertSelected {Row : Type} {clash : Row → Row → Prop} [DecidableRel clash] (name : String)
    (valid : Row → Prop) [DecidablePred valid] (references : Row → Bool) :
    List Row → Table clash → Except LedgerError (Table clash)
  | [], table => return table
  | row :: rest, table => do
      let inserted ← insertRow name valid table row
      ensure (references row = true) (.sqlite (.foreignKey name))
      insertSelected name valid references rest inserted.1

namespace Backfill

def valuation (id : Nat) (payment : SettledPaymentRow) : Valuation where
  id := Text.joined ':' "btc" (toString id)
  asset := .btc
  network := "legacy-unspecified"
  provider := payment.source
  accountScope := "legacy-settled-payment"
  receiveScope := payment.sourceId
  addressUser := payment.addressUser
  creditPool := payment.creditPool
  expectedAtomic := 1
  targetSats := 1
  maxCreditSats := 9223372036854775807
  rateNumerator := none
  rateDenominator := none
  rateSource := none
  rateObservedAt := none
  issuedAt := none
  expiresAt := none
  policyVersion := "btc-identity-v1"

def allocation (id : Nat) (payment : SettledPaymentRow) : AllocationRow where
  valuationId := Text.joined ':' "btc" (toString id)
  eligibleAtomic := payment.amountMsat / 1000
  creditedSats := payment.amountMsat / 1000
  holdReason := none

def receipt (id : Nat) (payment : SettledPaymentRow) : AssetReceipt where
  valuationId := Text.joined ':' "btc" (toString id)
  receiptKey := payment.sourceId
  amountAtomic := payment.amountMsat / 1000
  firstSeenAt := none
  unlocked := true
  eligible := true
  btcSettlementId := some id

def grant (payment : SettledPaymentRow) (receiptId entryId : Nat) : CreditGrant where
  receiptId := receiptId
  deltaSats := payment.amountMsat / 1000
  cumulativeAtomic := payment.amountMsat / 1000
  cumulativeSats := payment.amountMsat / 1000
  ledgerEntryId := some entryId
  eventSeq := none

/-- `settled_payments p JOIN asset_receipts r JOIN ledger_entries l`. -/
def grants (payments : List (Nat × SettledPaymentRow)) (receipts : List (Nat × AssetReceipt))
    (entries : List (Nat × LedgerEntry)) : List CreditGrant :=
  payments.flatMap fun payment =>
    (receipts.filter fun receipt => receipt.2.btcSettlementId = some payment.1).flatMap
      fun receipt =>
        (entries.filter fun entry =>
          entry.2.sourceKey = paymentKey payment.2.source payment.2.sourceId).map
          fun entry => grant payment.2 receipt.1 entry.1

end Backfill

def Version9.migrate (old : Version9) : Except LedgerError Version10 := do
  ensure (old.migrationCheck = 1) (.sqlite (.check "credit_migration_check"))
  let db := old.tables
  let payments := db.settledPayments.entries
  let valuations ← insertSelected "credit_valuations" Valuation.Valid (fun _ => true)
    (payments.map fun payment => Backfill.valuation payment.1 payment.2) db.creditValuations
  let isValued := fun (id : String) => valuations.rows.any fun row => row.id = id
  let allocations ← insertSelected "credit_allocations" AllocationRow.Valid
    (fun row => isValued row.valuationId)
    (payments.map fun payment => Backfill.allocation payment.1 payment.2) db.creditAllocations
  let receipts ← insertSelected "asset_receipts" AssetReceipt.Valid
    (fun row => isValued row.valuationId &&
      row.btcSettlementId.all fun id => (db.settledPayments.get? id).isSome)
    (payments.map fun payment => Backfill.receipt payment.1 payment.2) db.assetReceipts
  let grants ← insertSelected "credit_grants" CreditGrant.Valid
    (fun row => (receipts.get? row.receiptId).isSome &&
      (row.ledgerEntryId.all fun id => (db.ledgerEntries.get? id).isSome) &&
      row.eventSeq.all fun seq => (db.eventLog.get? seq).isSome)
    (Backfill.grants payments receipts.entries db.ledgerEntries.entries) db.creditGrants
  return {
    ledger := { db with
      creditValuations := valuations
      creditAllocations := allocations
      assetReceipts := receipts
      creditGrants := grants }
    outbox := old.outbox }

/-- Bring a database up to date: commit the migration, or roll it back. -/
def Database.upgrade : Database → Except LedgerError Unit × Database
  | version9 old =>
      match old.migrate with
      | .ok new => (.ok (), version10 new)
      | .error error => (.error error, version9 old)
  | version10 db => (.ok (), version10 db)

/-! ## Inserting a selection -/

section Selected

variable {Row : Type} {clash : Row → Row → Prop} [DecidableRel clash] {name : String}
  {valid : Row → Prop} [DecidablePred valid] {references : Row → Bool}

/-- A selection is inserted when its rows are valid, refer to rows that are there, and
clash neither with each other nor with a stored row. -/
theorem insertSelected_ok {rows : List Row} {table : Table clash}
    (valids : ∀ row ∈ rows, valid row) (refer : ∀ row ∈ rows, references row = true)
    (apart : rows.Pairwise fun left right => ¬ clash left right)
    (fresh : ∀ row ∈ rows, table.Fresh row) :
    ∃ after, insertSelected name valid references rows table = .ok after := by
  induction rows generalizing table with
  | nil => exact ⟨table, rfl⟩
  | cons row rest induction =>
      rcases List.pairwise_cons.mp apart with ⟨headApart, restApart⟩
      have rowFresh := fresh row List.mem_cons_self
      have restFresh : ∀ other ∈ rest, (table.insert row rowFresh).Fresh other := by
        intro other member existing stored
        rcases (Table.mem_rows_insert rowFresh).mp stored with old | rfl
        · exact fresh other (List.mem_cons_of_mem _ member) existing old
        · exact headApart other member
      rcases induction (fun other member => valids other (List.mem_cons_of_mem _ member))
        (fun other member => refer other (List.mem_cons_of_mem _ member)) restApart restFresh
        with ⟨after, inserted⟩
      refine ⟨after, ?_⟩
      simp only [insertSelected, bind_eq_ok, Prod.exists, insertRow_eq_ok, ensure_eq_ok]
      exact ⟨_, _, ⟨valids row List.mem_cons_self, rfl, rowFresh, rfl⟩, .unit,
        refer row List.mem_cons_self, inserted⟩

theorem insertSelected_rows {rows : List Row} {table after : Table clash}
    (inserted : insertSelected name valid references rows table = .ok after) :
    after.rows = table.rows ++ rows := by
  induction rows generalizing table with
  | nil =>
      cases inserted
      exact (List.append_nil _).symm
  | cons row rest induction =>
      simp only [insertSelected, bind_eq_ok, Prod.exists, insertRow_eq_ok, ensure_eq_ok]
        at inserted
      rcases inserted with ⟨_, _, ⟨_, _, fresh, rfl⟩, _, _, insertedRest⟩
      rw [induction insertedRest, Table.rows_insert, List.append_assoc]
      rfl

end Selected

/-! ## What the check establishes -/

/-- The settlement is worth whole sats, and its entry credits them to it. -/
def SettledPaymentRow.IsCredited (payment : SettledPaymentRow)
    (entries : List LedgerEntry) : Prop :=
  payment.amountMsat % 1000 = 0 ∧
    ∃ entry ∈ entries, entry.sourceKey = paymentKey payment.source payment.sourceId ∧
      entry.entryType = "HERD_RECEIPT" ∧ entry.deltaSats = payment.amountMsat / 1000 ∧
      entry.paymentSource = some payment.source ∧
      entry.paymentSourceId = some payment.sourceId ∧
      entry.addressUser = some payment.addressUser ∧
      entry.creditPool = some payment.creditPool ∧ entry.paymentHash = payment.paymentHash

theorem SettledPaymentRow.isCorrupt_some {payment : SettledPaymentRow} {entry : LedgerEntry} :
    payment.isCorrupt (some entry) = false ↔ payment.amountMsat % 1000 = 0 ∧
      entry.entryType = "HERD_RECEIPT" ∧ entry.deltaSats = payment.amountMsat / 1000 ∧
      entry.paymentSource = some payment.source ∧
      entry.paymentSourceId = some payment.sourceId ∧
      entry.addressUser = some payment.addressUser ∧
      entry.creditPool = some payment.creditPool ∧ entry.paymentHash = payment.paymentHash := by
  simp [isCorrupt, and_assoc]

theorem SettledPaymentRow.leftJoin_eq {payment : SettledPaymentRow}
    {ledger : Table LedgerEntry.Clash} {entry : LedgerEntry} (member : entry ∈ ledger.rows)
    (key : entry.sourceKey = paymentKey payment.source payment.sourceId) :
    payment.leftJoin ledger.rows = [some entry] := by
  have only : (ledger.rows.filter fun entry =>
      entry.sourceKey = paymentKey payment.source payment.sourceId) = [entry] := by
    refine filter_eq_singleton (ledger.rows_nodup fun row => sameKey_iff.mpr ⟨_, rfl, rfl⟩)
      member (decide_eq_true key) fun other otherMember otherKey => ?_
    exact ledger.row_eq_of_key otherMember member ((of_decide_eq_true otherKey).trans key.symm)
  rw [leftJoin, only]
  rfl

theorem SettledPaymentRow.isCredited_iff {payment : SettledPaymentRow}
    {ledger : Table LedgerEntry.Clash} :
    payment.IsCredited ledger.rows ↔
      (payment.leftJoin ledger.rows).any payment.isCorrupt = false := by
  constructor
  · rintro ⟨aligned, entry, member, key, matching⟩
    rw [leftJoin_eq member key, List.any_cons, List.any_nil, Bool.or_false]
    exact isCorrupt_some.mpr ⟨aligned, matching⟩
  · intro passes
    cases found : ledger.rows.filter fun entry =>
        entry.sourceKey = paymentKey payment.source payment.sourceId with
    | nil =>
        rw [leftJoin, found] at passes
        simp [isCorrupt] at passes
    | cons entry others =>
        have selected : entry ∈ ledger.rows.filter fun entry =>
            entry.sourceKey = paymentKey payment.source payment.sourceId := by
          rw [found]
          exact List.mem_cons_self
        rcases List.mem_filter.mp selected with ⟨member, isKey⟩
        have key := of_decide_eq_true isKey
        rw [leftJoin_eq member key, List.any_cons, List.any_nil, Bool.or_false] at passes
        rcases isCorrupt_some.mp passes with ⟨aligned, matching⟩
        exact ⟨aligned, entry, member, key, matching⟩

theorem Version9.migrationCheck_eq_one {old : Version9} :
    old.migrationCheck = 1 ↔
      ∀ row ∈ old.settledPayments.rows, row.IsCredited old.ledgerEntries.rows := by
  rw [migrationCheck]
  simp only [SettledPaymentRow.isCredited_iff]
  split
  · rename_i corrupt
    rcases List.any_eq_true.mp corrupt with ⟨row, member, isCorrupt⟩
    constructor
    · intro passes
      cases passes
    · intro sound
      rw [sound row member] at isCorrupt
      cases isCorrupt
  · rename_i sound
    refine ⟨fun _ row member => ?_, fun _ => rfl⟩
    exact Bool.eq_false_iff.mpr (List.any_eq_false.mp (Bool.eq_false_iff.mpr sound) row member)

/-! ## The backfill succeeds -/

section Backfills

variable {old : Version9} {payment : Nat × SettledPaymentRow}

namespace Backfill

theorem mem_grants {payments : List (Nat × SettledPaymentRow)}
    {receipts : List (Nat × AssetReceipt)} {entries : List (Nat × LedgerEntry)}
    {row : CreditGrant} :
    row ∈ grants payments receipts entries ↔
      ∃ payment ∈ payments, ∃ receipt ∈ receipts, ∃ entry ∈ entries,
        receipt.2.btcSettlementId = some payment.1 ∧
        entry.2.sourceKey = paymentKey payment.2.source payment.2.sourceId ∧
        row = grant payment.2 receipt.1 entry.1 := by
  simp only [grants, List.mem_flatMap, List.mem_map, List.mem_filter, decide_eq_true_eq]
  constructor
  · rintro ⟨payment, paid, receipt, ⟨received, link⟩, entry, ⟨booked, key⟩, rfl⟩
    exact ⟨payment, paid, receipt, received, entry, booked, link, key, rfl⟩
  · rintro ⟨payment, paid, receipt, received, entry, booked, link, key, rfl⟩
    exact ⟨payment, paid, receipt, ⟨received, link⟩, entry, ⟨booked, key⟩, rfl⟩

end Backfill

theorem settlements_apart (table : Table SettledPaymentRow.Clash) :
    table.entries.Pairwise fun left right => left.1 ≠ right.1 ∧
      ¬ (left.2.source = right.2.source ∧ left.2.sourceId = right.2.sourceId) := by
  refine (table.ascending.and table.distinct).imp fun {left right} apart => ?_
  refine ⟨Nat.ne_of_lt apart.1, fun same => apart.2 (.inl (sameKey_iff.mpr ⟨_, rfl, ?_⟩))⟩
  rw [same.1, same.2]

theorem valuations_apart (table : Table SettledPaymentRow.Clash) :
    (table.entries.map fun payment => Backfill.valuation payment.1 payment.2).Pairwise
      fun left right => ¬ Valuation.Clash left right := by
  refine List.pairwise_map.mpr ((settlements_apart table).imp fun {left right} apart => ?_)
  rintro (ids | bindings)
  · rcases sameKey_iff.mp ids with ⟨id, leftId, rightId⟩
    exact apart.1 (btcId_inj.mp (Option.some.inj (leftId.trans rightId.symm)))
  · rcases sameKey_iff.mp bindings with ⟨binding, leftBinding, rightBinding⟩
    have same := Option.some.inj (leftBinding.trans rightBinding.symm)
    simp only [Backfill.valuation, Prod.mk.injEq, true_and] at same
    exact apart.2 same

theorem allocations_apart (table : Table SettledPaymentRow.Clash) :
    (table.entries.map fun payment => Backfill.allocation payment.1 payment.2).Pairwise
      fun left right => ¬ AllocationRow.Clash left right := by
  refine List.pairwise_map.mpr ((settlements_apart table).imp fun {left right} apart => ?_)
  intro ids
  rcases sameKey_iff.mp ids with ⟨id, leftId, rightId⟩
  exact apart.1 (btcId_inj.mp (Option.some.inj (leftId.trans rightId.symm)))

theorem receipts_apart (table : Table SettledPaymentRow.Clash) :
    (table.entries.map fun payment => Backfill.receipt payment.1 payment.2).Pairwise
      fun left right => ¬ AssetReceipt.Clash left right := by
  refine List.pairwise_map.mpr ((settlements_apart table).imp fun {left right} apart => ?_)
  rintro (keys | links)
  · rcases sameKey_iff.mp keys with ⟨key, leftKey, rightKey⟩
    have same := Option.some.inj (leftKey.trans rightKey.symm)
    exact apart.1 (btcId_inj.mp (congrArg Prod.fst same))
  · rcases sameKey_iff.mp links with ⟨link, leftLink, rightLink⟩
    exact apart.1 (Option.some.inj (leftLink.trans rightLink.symm))

/-- The entry under the key of a credited settlement is the one that credits it. -/
theorem SettledPaymentRow.IsCredited.entry {row : SettledPaymentRow}
    {ledger : Table LedgerEntry.Clash} (credited : row.IsCredited ledger.rows)
    {entry : LedgerEntry} (member : entry ∈ ledger.rows)
    (key : entry.sourceKey = paymentKey row.source row.sourceId) :
    entry.entryType = "HERD_RECEIPT" ∧ entry.deltaSats = row.amountMsat / 1000 ∧
      entry.paymentSource = some row.source ∧ entry.paymentSourceId = some row.sourceId := by
  rcases credited with ⟨_, found, foundMember, foundKey, isReceipt, delta, source, sourceId, _⟩
  rw [ledger.row_eq_of_key member foundMember (key.trans foundKey.symm)]
  exact ⟨isReceipt, delta, source, sourceId⟩

section Grants

variable {settlements : Table SettledPaymentRow.Clash} {receipts : Table AssetReceipt.Clash}
  {ledger : Table LedgerEntry.Clash}

theorem grants_apart_inner (payment : Nat × SettledPaymentRow) :
    ((receipts.entries.filter fun receipt =>
        receipt.2.btcSettlementId = some payment.1).flatMap fun receipt =>
      (ledger.entries.filter fun entry =>
        entry.2.sourceKey = paymentKey payment.2.source payment.2.sourceId).map
        fun entry => Backfill.grant payment.2 receipt.1 entry.1).Pairwise
      fun left right => ¬ CreditGrant.Clash left right := by
  refine List.pairwise_flatMap.mpr ⟨fun receipt _ => ?_, ?_⟩
  · refine List.pairwise_map.mpr ((ledger.distinct.filter _).imp_of_mem
      fun {left right} leftMember rightMember apart => ?_)
    have leftKey := of_decide_eq_true (List.mem_filter.mp leftMember).2
    have rightKey := of_decide_eq_true (List.mem_filter.mp rightMember).2
    exact absurd (sameKey_iff.mpr ⟨_, congrArg some leftKey, congrArg some rightKey⟩) apart
  · refine (receipts.distinct.filter _).imp_of_mem
      fun {left right} leftMember rightMember apart => ?_
    have leftLink := of_decide_eq_true (List.mem_filter.mp leftMember).2
    have rightLink := of_decide_eq_true (List.mem_filter.mp rightMember).2
    exact absurd (.inr (sameKey_iff.mpr ⟨_, leftLink, rightLink⟩)) apart

theorem grants_apart (credited : ∀ row ∈ settlements.rows, row.IsCredited ledger.rows) :
    (Backfill.grants settlements.entries receipts.entries ledger.entries).Pairwise
      fun left right => ¬ CreditGrant.Clash left right := by
  refine List.pairwise_flatMap.mpr ⟨fun payment _ => grants_apart_inner payment, ?_⟩
  refine (settlements_apart settlements).imp_of_mem
    fun {leftPaid rightPaid} leftMember rightMember apart left isLeft right isRight => ?_
  simp only [List.mem_flatMap, List.mem_map, List.mem_filter, decide_eq_true_eq]
    at isLeft isRight
  rcases isLeft with ⟨⟨leftReceiptId, leftReceipt⟩, ⟨leftReceived, leftLink⟩,
    ⟨leftEntryId, leftEntry⟩, ⟨leftBooked, leftKey⟩, rfl⟩
  rcases isRight with ⟨⟨rightReceiptId, rightReceipt⟩, ⟨rightReceived, rightLink⟩,
    ⟨rightEntryId, rightEntry⟩, ⟨rightBooked, rightKey⟩, rfl⟩
  rintro (ids | entries | events)
  · rcases sameKey_iff.mp ids with ⟨id, leftId, rightId⟩
    have same : leftReceiptId = rightReceiptId := Option.some.inj (leftId.trans rightId.symm)
    subst same
    have sameRow := receipts.row_unique leftReceived rightReceived
    subst sameRow
    exact apart.1 (Option.some.inj (leftLink.symm.trans rightLink))
  · rcases sameKey_iff.mp entries with ⟨id, leftId, rightId⟩
    have same : leftEntryId = rightEntryId := Option.some.inj (leftId.trans rightId.symm)
    subst same
    have sameRow := ledger.row_unique leftBooked rightBooked
    subst sameRow
    have leftCredited := (credited _ (Table.mem_rows_of_mem_entries leftMember)).entry
      (Table.mem_rows_of_mem_entries leftBooked) leftKey
    have rightCredited := (credited _ (Table.mem_rows_of_mem_entries rightMember)).entry
      (Table.mem_rows_of_mem_entries rightBooked) rightKey
    exact apart.2 ⟨Option.some.inj (leftCredited.2.2.1.symm.trans rightCredited.2.2.1),
      Option.some.inj (leftCredited.2.2.2.symm.trans rightCredited.2.2.2)⟩
  · rcases sameKey_iff.mp events with ⟨seq, leftSeq, _⟩
    cases leftSeq

end Grants

structure Migrated (old : Version9) (new : Version10) : Prop where
  credited : ∀ row ∈ old.settledPayments.rows, row.IsCredited old.ledgerEntries.rows
  outbox : new.outbox = old.outbox
  ledger : new.ledger = { old.tables with
    creditValuations := new.ledger.creditValuations
    creditAllocations := new.ledger.creditAllocations
    assetReceipts := new.ledger.assetReceipts
    creditGrants := new.ledger.creditGrants }
  valuations : new.ledger.creditValuations.rows =
    old.settledPayments.entries.map fun payment => Backfill.valuation payment.1 payment.2
  allocations : new.ledger.creditAllocations.rows =
    old.settledPayments.entries.map fun payment => Backfill.allocation payment.1 payment.2
  receipts : new.ledger.assetReceipts.rows =
    old.settledPayments.entries.map fun payment => Backfill.receipt payment.1 payment.2
  grants : new.ledger.creditGrants.rows = Backfill.grants old.settledPayments.entries
    new.ledger.assetReceipts.entries old.ledgerEntries.entries

theorem migrated_of_ok {new : Version10} (migrated : old.migrate = .ok new) :
    Migrated old new := by
  simp only [Version9.migrate, bind_eq_ok, ensure_eq_ok, pure_eq_ok] at migrated
  rcases migrated with ⟨_, passes, valuations, valued, allocations, allocated, receipts,
    received, grants, granted, rfl⟩
  exact {
    credited := Version9.migrationCheck_eq_one.mp passes
    outbox := rfl
    ledger := rfl
    valuations := insertSelected_rows valued
    allocations := insertSelected_rows allocated
    receipts := insertSelected_rows received
    grants := insertSelected_rows granted }

/-- A credited settlement that satisfies the earlier schema is worth at least a sat. -/
theorem sats_pos {row : SettledPaymentRow} (valid : row.Valid)
    (aligned : row.amountMsat % 1000 = 0) : 0 < row.amountMsat / 1000 := by
  have positive := valid.2.2.2.2.1
  omega

theorem valuation_valid (id : Nat) (row : SettledPaymentRow) :
    (Backfill.valuation id row).Valid := by
  have bounds : (0 : Int) < 1 ∧ (1 : Int) ≤ 9223372036854775807 := by decide
  exact ⟨bounds.1, bounds.1, bounds.2, rfl, rfl, rfl, rfl, rfl, rfl, rfl, rfl⟩

theorem receipt_valid_of {row : SettledPaymentRow} (valid : row.Valid)
    (positive : 0 < row.amountMsat / 1000) (id : Nat) : (Backfill.receipt id row).Valid :=
  ⟨valid.2.1, positive, fun _ isNone => by cases isNone⟩

theorem grant_valid_of {row : SettledPaymentRow} (positive : 0 < row.amountMsat / 1000)
    (receiptId entryId : Nat) : (Backfill.grant row receiptId entryId).Valid :=
  ⟨Int.le_of_lt positive, positive, Int.le_refl _, .inr ⟨positive, rfl⟩⟩

/-- Every settlement is in the table that the backfilled rows are read from. -/
theorem forall_backfilled {Row : Type} {property : Row → Prop}
    {rowOf : Nat × SettledPaymentRow → Row} {payments : List (Nat × SettledPaymentRow)}
    (holds : ∀ payment ∈ payments, property (rowOf payment)) :
    ∀ row ∈ payments.map rowOf, property row := by
  intro row member
  rcases List.mem_map.mp member with ⟨payment, paid, rfl⟩
  exact holds payment paid

theorem migrate_ok
    (credited : ∀ row ∈ old.settledPayments.rows, row.IsCredited old.ledgerEntries.rows) :
    ∃ new, old.migrate = .ok new := by
  have valids : ∀ payment ∈ old.settledPayments.entries, payment.2.Valid := fun payment paid =>
    old.settled _ (Table.mem_rows_of_mem_entries paid)
  have positive : ∀ payment ∈ old.settledPayments.entries,
      0 < payment.2.amountMsat / 1000 := fun payment paid =>
    sats_pos (valids payment paid) (credited _ (Table.mem_rows_of_mem_entries paid)).1
  have freshInEmpty : ∀ {Row : Type} {clash : Row → Row → Prop} (rows : List Row),
      ∀ row ∈ rows, (Table.empty : Table clash).Fresh row := fun _ _ _ _ stored => by
    cases stored
  have valuing : ∃ valuations, insertSelected "credit_valuations" Valuation.Valid
      (fun _ => true)
      (old.settledPayments.entries.map fun payment => Backfill.valuation payment.1 payment.2)
      (Table.empty : Table Valuation.Clash) = .ok valuations :=
    insertSelected_ok (forall_backfilled fun payment _ => valuation_valid payment.1 payment.2)
      (fun _ _ => rfl) (valuations_apart old.settledPayments) (freshInEmpty _)
  rcases valuing with ⟨valuations, valued⟩
  have isValued : ∀ payment ∈ old.settledPayments.entries,
      (valuations.rows.any fun row => row.id = btcId payment.1) = true := by
    intro payment paid
    refine List.any_eq_true.mpr ⟨Backfill.valuation payment.1 payment.2, ?_, decide_eq_true rfl⟩
    rw [insertSelected_rows valued]
    exact List.mem_map_of_mem paid
  have allocating : ∃ allocations, insertSelected "credit_allocations" AllocationRow.Valid
      (fun row => valuations.rows.any fun valuation => valuation.id = row.valuationId)
      (old.settledPayments.entries.map fun payment => Backfill.allocation payment.1 payment.2)
      (Table.empty : Table AllocationRow.Clash) = .ok allocations :=
    insertSelected_ok (forall_backfilled fun payment paid =>
        ⟨Int.le_of_lt (positive payment paid), Int.le_of_lt (positive payment paid)⟩)
      (forall_backfilled isValued) (allocations_apart old.settledPayments) (freshInEmpty _)
  rcases allocating with ⟨allocations, allocated⟩
  have receiving : ∃ receipts, insertSelected "asset_receipts" AssetReceipt.Valid
      (fun row => (valuations.rows.any fun valuation => valuation.id = row.valuationId) &&
        row.btcSettlementId.all fun id => (old.settledPayments.get? id).isSome)
      (old.settledPayments.entries.map fun payment => Backfill.receipt payment.1 payment.2)
      (Table.empty : Table AssetReceipt.Clash) = .ok receipts := by
    refine insertSelected_ok (forall_backfilled fun payment paid =>
        receipt_valid_of (valids payment paid) (positive payment paid) payment.1)
      (forall_backfilled fun payment paid => ?_) (receipts_apart old.settledPayments)
      (freshInEmpty _)
    have found : (old.settledPayments.get? payment.1).isSome = true := by
      rw [Table.get?_eq_some.mpr paid]
      rfl
    exact Bool.and_eq_true_iff.mpr ⟨isValued payment paid, found⟩
  rcases receiving with ⟨receipts, received⟩
  have granting : ∃ grants, insertSelected "credit_grants" CreditGrant.Valid
      (fun row => (receipts.get? row.receiptId).isSome &&
        (row.ledgerEntryId.all fun id => (old.ledgerEntries.get? id).isSome) &&
        row.eventSeq.all fun seq => (old.eventLog.get? seq).isSome)
      (Backfill.grants old.settledPayments.entries receipts.entries old.ledgerEntries.entries)
      (Table.empty : Table CreditGrant.Clash) = .ok grants := by
    refine insertSelected_ok (fun row member => ?_) (fun row member => ?_)
      (grants_apart credited) (freshInEmpty _)
    · rcases Backfill.mem_grants.mp member with ⟨payment, paid, _, _, _, _, _, _, rfl⟩
      exact grant_valid_of (positive payment paid) _ _
    · rcases Backfill.mem_grants.mp member with
        ⟨_, _, receipt, isReceipt, entry, isEntry, _, _, rfl⟩
      simp [Backfill.grant, Table.get?_eq_some.mpr isReceipt, Table.get?_eq_some.mpr isEntry]
  rcases granting with ⟨grants, granted⟩
  refine ⟨⟨{ old.tables with
    creditValuations := valuations
    creditAllocations := allocations
    assetReceipts := receipts
    creditGrants := grants }, old.outbox⟩, ?_⟩
  simp only [Version9.migrate, bind_eq_ok, ensure_eq_ok, pure_eq_ok]
  exact ⟨.unit, Version9.migrationCheck_eq_one.mpr credited, valuations, valued, allocations,
    allocated, receipts, received, grants, granted, rfl⟩

theorem Migrated.backed {new : Version10} (migrated : Migrated old new)
    (paid : payment ∈ old.settledPayments.entries) :
    Backed new.ledger payment.1 payment.2 := by
  have credited := migrated.credited _ (Table.mem_rows_of_mem_entries paid)
  have received : Backfill.receipt payment.1 payment.2 ∈ new.ledger.assetReceipts.rows := by
    rw [migrated.receipts]
    exact List.mem_map_of_mem paid
  rcases Table.mem_rows.mp received with ⟨receiptId, receiptEntry⟩
  rcases credited.2 with ⟨entry, booked, key, _⟩
  rcases Table.mem_rows.mp booked with ⟨entryId, entryMember⟩
  have isEntry := credited.entry booked key
  have sameLedger : new.ledger.ledgerEntries = old.ledgerEntries := by
    rw [migrated.ledger]
    rfl
  refine ⟨credited.1, ?_, ?_, receiptId, entryId, none, entry, receiptEntry, ?_, ?_,
    isEntry.2.1, key, isEntry.1⟩
  · rw [migrated.valuations]
    exact List.mem_map_of_mem paid
  · rw [migrated.allocations]
    exact List.mem_map_of_mem paid
  · rw [migrated.grants]
    exact Backfill.mem_grants.mpr ⟨payment, paid, _, receiptEntry, _, entryMember, rfl, key, rfl⟩
  · rw [sameLedger]
    exact entryMember

end Backfills

/-! ## After the migration -/

section Upgrades

variable {old : Version9} {new : Version10}

theorem upgrade_ok (migrated : old.migrate = .ok new) :
    (Database.version9 old).upgrade = (.ok (), .version10 new) := by
  rw [Database.upgrade, migrated]

theorem upgrade_error {error : LedgerError} (failed : old.migrate = .error error) :
    (Database.version9 old).upgrade = (.error error, .version9 old) := by
  rw [Database.upgrade, failed]

/-- What was settled before the migration is still settled and backed after any calls. -/
theorem Migrated.backed_later [SerdeJson] (migrated : Migrated old new)
    {labels : List LedgerLabel} {later : Db} (run : LedgerRun new.ledger labels later)
    {payment : Nat × SettledPaymentRow} (paid : payment ∈ old.settledPayments.entries) :
    payment ∈ later.settledPayments.entries ∧ Backed later payment.1 payment.2 := by
  have settled : payment ∈ new.ledger.settledPayments.entries := by
    rw [migrated.ledger]
    exact paid
  exact ⟨(settlements_extend_run run).mem_entries settled,
    (migrated.backed paid).mono (.of_run run)⟩

end Upgrades

/-- The migration succeeds just when every settlement is aligned and credited by its
entry. It leaves the books as they were, and what was settled before it is recognised
ever after; if it fails it changes nothing. -/
theorem asset_credit_migration [SerdeJson] (old : Version9) :
    ((Database.version9 old).upgrade.1 = .ok () ↔
      ∀ row ∈ old.settledPayments.rows, row.IsCredited old.ledgerEntries.rows) ∧
    (∀ error, (Database.version9 old).upgrade.1 = .error error →
      (Database.version9 old).upgrade.2 = .version9 old) ∧
    ((Database.version9 old).upgrade.1 = .ok () → ∃ new : Version10,
      (Database.version9 old).upgrade.2 = .version10 new ∧ new.outbox = old.outbox ∧
      new.ledger.settledPayments = old.settledPayments ∧
      new.ledger.ledgerEntries = old.ledgerEntries ∧
      new.ledger.feedAttempts = old.feedAttempts ∧ new.ledger.eventLog = old.eventLog ∧
      feedCreditInTransaction new.ledger = feedCreditInTransaction old.tables ∧
      ∀ labels later, LedgerRun new.ledger labels later →
        ∀ entry ∈ old.settledPayments.entries,
          verifyNativeBtc entry.1 later = .ok () ∧
          ∀ (payment : SettledPayment) now, entry.2.source = payment.source →
            entry.2.sourceId = payment.sourceId → payment.Accepted →
            payment.Redelivers payment.amountMsat entry.2 →
              execute (.recordPayment payment) now later =
                (.ok (.settlement .duplicate), later)) := by
  cases outcome : old.migrate with
  | error error =>
      rw [upgrade_error outcome]
      refine ⟨⟨nofun, fun credited => ?_⟩, fun _ _ => rfl, nofun⟩
      rcases migrate_ok credited with ⟨new, migrated⟩
      rw [outcome] at migrated
      cases migrated
  | ok new =>
      have migrated := migrated_of_ok outcome
      rw [upgrade_ok outcome]
      refine ⟨⟨fun _ => migrated.credited, fun _ => rfl⟩, nofun, fun _ => ⟨new, rfl, migrated.outbox, ?_, ?_, ?_, ?_, ?_, ?_⟩⟩
      iterate 5
        rw [migrated.ledger]
        rfl
      intro labels later run entry paid
      rcases migrated.backed_later run paid with ⟨settled, backed⟩
      refine ⟨backed.verified settled, fun payment now source sourceId accepted redelivers => ?_⟩
      have ran := recordPayment_again accepted (backed.verified settled) settled source sourceId
        redelivers
      simp only [execute, LedgerCall.body, transact, ran]
      rfl

/-! A settlement of 2340 sats, whose entry credits `deltaSats`. -/

def historicPayment : SettledPaymentRow where
  source := "strike"
  sourceId := "historic"
  paymentHash := none
  addressUser := "herd"
  creditPool := "herd"
  amountMsat := 2340000
  settledAt := some 123
  contextJson := none

def historicDb (deltaSats : Int) : Version9 where
  settledPayments := Table.empty.insert historicPayment (by decide)
  ledgerEntries := Table.empty.insert { historicPayment.entry with deltaSats := deltaSats }
    (by simp [Table.Fresh])
  feedAttempts := .empty
  eventLog := .empty
  feederCooldown := 0
  strikeReceiveRequests := .empty
  strikeInbox := .empty
  strikeRecoveryScan := .empty
  outbox := ⟨.empty, 42⟩
  settled := by decide

example : (Database.version9 (historicDb 2340)).upgrade.1 = .ok () := by decide +kernel

example : (Database.version9 (historicDb 2341)).upgrade.1 =
    .error (.sqlite (.check "credit_migration_check")) := by decide +kernel

end LightningGoats
