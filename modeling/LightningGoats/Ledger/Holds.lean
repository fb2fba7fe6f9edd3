import LightningGoats.Ledger.Announcements
import LightningGoats.Ledger.Observations

/-! # Holds are permanent

A held allocation keeps its watermarks, its grants and what they booked and
announced, whatever is observed later. A stored receipt keeps everything but
its lock, which only opens.
-/

namespace LightningGoats

open Outcome Relational

/-! ## Stored receipts -/

/-- A receipt of which nothing has changed but that it may have been unlocked. -/
def AssetReceipt.Keeps (earlier later : AssetReceipt) : Prop :=
  later = { earlier with unlocked := later.unlocked } ∧
    (earlier.unlocked = true → later.unlocked = true)

theorem AssetReceipt.Keeps.refl (receipt : AssetReceipt) : receipt.Keeps receipt :=
  ⟨rfl, id⟩

theorem AssetReceipt.Keeps.trans {first second third : AssetReceipt}
    (left : first.Keeps second) (right : second.Keeps third) : first.Keeps third := by
  rcases left with ⟨leftSame, leftUnlocked⟩
  rcases right with ⟨rightSame, rightUnlocked⟩
  refine ⟨?_, fun unlocked => rightUnlocked (leftUnlocked unlocked)⟩
  rw [leftSame] at rightSame
  exact rightSame

theorem AssetReceipt.Keeps.unlock (receipt : AssetReceipt) (receiptId rowid : Nat) :
    receipt.Keeps (receipt.unlock receiptId rowid) := by
  refine ⟨?_, AssetReceipt.unlock_unlocked⟩
  unfold AssetReceipt.unlock
  split <;> rfl

def ReceiptsKept (before after : Db) : Prop :=
  ∀ rowid receipt, (rowid, receipt) ∈ before.assetReceipts.entries →
    ∃ current, (rowid, current) ∈ after.assetReceipts.entries ∧ receipt.Keeps current

namespace ReceiptsKept

variable {scope : Scope} {before after : Db}

theorem refl (db : Db) : ReceiptsKept db db :=
  fun _ receipt stored => ⟨receipt, stored, .refl receipt⟩

theorem trans {first second third : Db} (left : ReceiptsKept first second)
    (right : ReceiptsKept second third) : ReceiptsKept first third := by
  intro rowid receipt stored
  rcases left rowid receipt stored with ⟨middle, middleStored, leftKeeps⟩
  rcases right rowid middle middleStored with ⟨current, currentStored, rightKeeps⟩
  exact ⟨current, currentStored, leftKeeps.trans rightKeeps⟩

theorem insert {receipt : AssetReceipt} (fresh : before.assetReceipts.Fresh receipt)
    (receipts : after.assetReceipts = before.assetReceipts.insert receipt fresh) :
    ReceiptsKept before after := by
  intro rowid stored member
  rw [receipts]
  exact ⟨stored, Table.mem_entries_insert_old fresh member, .refl stored⟩

theorem unlock (receiptId : Nat) (db : Db) : ReceiptsKept db (unlockReceipt receiptId db) := by
  intro rowid receipt member
  rw [entries_unlockReceipt]
  exact ⟨_, List.mem_map_of_mem member, .unlock receipt receiptId rowid⟩

theorem of_quiet (quiet : Quiet scope before after) : ReceiptsKept before after := by
  cases quiet with
  | registers registers => cases registers; exact refl _
  | holds _ holds => cases holds; exact refl _
  | stores stores =>
      cases stores with
      | intro _ _ _ _ _ _ _ _ fresh => exact insert fresh rfl
  | unlocks => exact unlock _ _
  | grantsDust grants => cases grants; exact refl _
  | begins begins => cases begins; exact refl _
  | moves moves => cases moves; exact refl _
  | cools => exact refl _
  | logs logs => cases logs; exact refl _
  | strike => exact refl _

theorem of_booking (booking : Booking scope before after) : ReceiptsKept before after := by
  cases booking with
  | settles settles =>
      cases settles with
      | intro _ _ _ _ _ _ _ receiptFresh => exact insert receiptFresh rfl
  | grants grants => cases grants; exact refl _
  | debits debits => cases debits; exact refl _
  | announces announces => cases announces; exact refl _

theorem of_run [SerdeJson] {labels : List LedgerLabel} (run : LedgerRun before labels after) :
    ReceiptsKept before after :=
  ledgerRun_relates refl trans of_quiet of_booking run

end ReceiptsKept

/-! ## Held allocations -/

def grantRows (id : String) (db : Db) : List CreditGrant :=
  (grantsOf id db).map Prod.fst

def bookedRows (id : String) (db : Db) : List (Option LedgerEntry) :=
  (grantRows id db).map fun grant => grant.ledgerEntryId.bind db.ledgerEntries.get?

def announcedRows (id : String) (db : Db) : List (Option Event) :=
  (grantRows id db).map fun grant => grant.eventSeq.bind db.eventLog.get?

/-- A held allocation stays as it is, and so do the grants of its intent. -/
structure HeldKept (before after : Db) : Prop where
  allocations : ∀ allocation ∈ before.creditAllocations.rows,
    allocation.holdReason.isSome = true → allocation ∈ after.creditAllocations.rows
  grants : ∀ intentId, Held (xmrId intentId) before →
    grantRows (xmrId intentId) after = grantRows (xmrId intentId) before

namespace HeldKept

variable {scope : Scope} {before after : Db}

theorem refl (db : Db) : HeldKept db db :=
  ⟨fun _ member _ => member, fun _ _ => rfl⟩

theorem held {id : String} (kept : HeldKept before after) (held : Held id before) :
    Held id after := by
  rcases held with ⟨allocation, allocated, same, isHeld⟩
  exact ⟨allocation, kept.allocations allocation allocated isHeld, same, isHeld⟩

theorem trans {first second third : Db} (left : HeldKept first second)
    (right : HeldKept second third) : HeldKept first third where
  allocations allocation allocated isHeld :=
    right.allocations allocation (left.allocations allocation allocated isHeld) isHeld
  grants intentId held := (right.grants intentId (left.held held)).trans (left.grants intentId held)

theorem of_eq (allocations : after.creditAllocations = before.creditAllocations)
    (grants : ∀ intentId,
      grantRows (xmrId intentId) after = grantRows (xmrId intentId) before) :
    HeldKept before after where
  allocations := by rw [allocations]; exact fun _ member _ => member
  grants intentId _ := grants intentId

theorem same_grants (grants : after.creditGrants = before.creditGrants)
    (receipts : after.assetReceipts = before.assetReceipts) (id : String) :
    grantRows id after = grantRows id before :=
  congrArg (List.map Prod.fst) (grantsOf_congr grants fun _ _ => by rw [receipts])

theorem of_registers {intent : XmrCreditIntent} (registers : Registers intent before after) :
    HeldKept before after := by
  cases registers with
  | intro _ _ allocationFresh =>
    exact ⟨fun _ member _ => Table.mem_rows_insert_old allocationFresh member,
      fun _ _ => same_grants rfl rfl _⟩

theorem of_holds {intentId : Uuid} {reason : CreditHold}
    (holds : Holds intentId reason before after) : HeldKept before after := by
  cases holds with
  | intro conflicts =>
    refine ⟨fun allocation member isHeld => ?_, fun _ _ => same_grants rfl rfl _⟩
    rcases Option.isSome_iff_exists.mp isHeld with ⟨prior, isPrior⟩
    have keepsReason : allocation.holdReason.or (some reason) = allocation.holdReason := by
      rw [isPrior]
      rfl
    have unchanged : allocation.hold (xmrId intentId) reason = allocation := by
      unfold AllocationRow.hold
      rw [keepsReason, ite_self]
    simp only [holdAllocation, Table.rows_update]
    exact List.mem_map.mpr ⟨allocation, member, unchanged⟩

theorem of_grant {intentId : Uuid} {valuation : Valuation} {granted : AllocationRow}
    {receiptId : Nat} {receipt : AssetReceipt} {terms : CreditTerms} {update : CreditUpdate}
    {ledgerEntryId eventSeq : Option Nat}
    (due : GrantDue before intentId valuation granted receiptId receipt terms update)
    (fresh : before.creditGrants.Fresh (update.grant receiptId ledgerEntryId eventSeq))
    (grants : after.creditGrants = before.creditGrants.insert _ fresh)
    (receipts : after.assetReceipts = before.assetReceipts)
    (allocations : after.creditAllocations = update.allocations (xmrId intentId) before) :
    HeldKept before after := by
  have isFree : ∀ allocation ∈ before.creditAllocations.rows,
      allocation.holdReason.isSome = true → allocation.valuationId ≠ xmrId intentId := by
    intro allocation allocated isHeld same
    have isGranted := before.creditAllocations.row_eq_of_key allocated due.allocated
      (same.trans due.allocatedId.symm)
    rw [isGranted, due.free] at isHeld
    cases isHeld
  refine ⟨fun allocation allocated isHeld => ?_, fun otherId held => ?_⟩
  · rw [allocations, CreditUpdate.allocations, Table.rows_update]
    exact List.mem_map.mpr ⟨allocation, allocated, if_neg (isFree allocation allocated isHeld)⟩
  · rcases held with ⟨allocation, allocated, same, isHeld⟩
    have other : receipt.valuationId ≠ xmrId otherId := by
      rw [due.storedId, ← same]
      exact (isFree allocation allocated isHeld).symm
    have appended := grantsOf_insertGrant (xmrId otherId) fresh grants receipts due.stored
    rw [if_neg other, List.append_nil] at appended
    exact congrArg (List.map Prod.fst) appended

theorem of_settles {payment : SettledPayment} (tables : CreditTables before)
    (settles : Settles payment before after) : HeldKept before after := by
  cases settles with
  | intro _ _ _ _ _ _ allocationRows receiptFresh grantFresh =>
    refine ⟨fun allocation allocated _ => ?_, fun intentId _ => ?_⟩
    · rw [allocationRows]
      exact List.mem_append_left _ allocated
    · let received := { before with
        assetReceipts := before.assetReceipts.insert _ receiptFresh }
      have first : grantsOf (xmrId intentId) received = grantsOf (xmrId intentId) before :=
        grantsOf_insertReceipt tables receiptFresh rfl rfl
      have second := @grantsOf_insertGrant received { received with
        creditGrants := before.creditGrants.insert _ grantFresh } (xmrId intentId) _ _
        grantFresh rfl rfl (Table.mem_entries_insert_new receiptFresh)
      have notXmr : (btcReceipt before.settledPayments.nextRowid payment.settledRow
          payment.sats).valuationId ≠ xmrId intentId := (xmrId_ne_btcId _ _).symm
      rw [first, if_neg notXmr, List.append_nil] at second
      exact congrArg (List.map Prod.fst) second

theorem of_quiet (tables : CreditTables before) (quiet : Quiet scope before after) :
    HeldKept before after := by
  cases quiet with
  | registers registers => exact of_registers registers
  | holds _ holds => exact of_holds holds
  | stores stores =>
      cases stores with
      | intro _ _ _ _ _ _ _ _ fresh =>
        exact of_eq rfl fun _ =>
          congrArg (List.map Prod.fst) (grantsOf_insertReceipt tables fresh rfl rfl)
  | unlocks =>
      refine of_eq rfl fun _ => ?_
      rw [grantRows, grantsOf_unlock, List.map_map]
      rfl
  | grantsDust grants =>
      cases grants with
      | intro due _ fresh => exact of_grant due fresh rfl rfl rfl
  | begins begins => cases begins; exact of_eq rfl fun _ => same_grants rfl rfl _
  | moves moves => cases moves; exact of_eq rfl fun _ => same_grants rfl rfl _
  | cools => exact of_eq rfl fun _ => same_grants rfl rfl _
  | logs logs => cases logs; exact of_eq rfl fun _ => same_grants rfl rfl _
  | strike => exact of_eq rfl fun _ => same_grants rfl rfl _

theorem of_booking (tables : CreditTables before) (booking : Booking scope before after) :
    HeldKept before after := by
  cases booking with
  | settles settles => exact of_settles tables settles
  | grants grants =>
      cases grants with
      | intro due _ _ _ _ fresh => exact of_grant due fresh rfl rfl rfl
  | debits debits => cases debits; exact of_eq rfl fun _ => same_grants rfl rfl _
  | announces announces => cases announces; exact of_eq rfl fun _ => same_grants rfl rfl _

theorem of_run [SerdeJson] {labels : List LedgerLabel} (tables : CreditTables before)
    (run : LedgerRun before labels after) : HeldKept before after := by
  have related : CreditTables before → CreditTables after ∧ HeldKept before after := by
    refine @ledgerRun_relates _ _ _ _ (fun first second =>
      CreditTables first → CreditTables second ∧ HeldKept first second)
      (fun db shaped => ⟨shaped, .refl db⟩) ?_ ?_ ?_ run
    · intro first second third left right shaped
      rcases left shaped with ⟨middle, leftKept⟩
      rcases right middle with ⟨ending, rightKept⟩
      exact ⟨ending, leftKept.trans rightKept⟩
    · exact fun quiet shaped => ⟨shaped.of_quiet quiet, of_quiet shaped quiet⟩
    · exact fun booking shaped => ⟨shaped.of_booking booking, of_booking shaped booking⟩
  exact (related tables).2

end HeldKept

structure LogsKept (before after : Db) : Prop where
  entries : before.ledgerEntries.Extends after.ledgerEntries
  events : before.eventLog.Extends after.eventLog

theorem LogsKept.of_run [SerdeJson] {before after : Db} {labels : List LedgerLabel}
    (run : LedgerRun before labels after) : LogsKept before after := by
  refine ledgerRun_relates (fun db => ⟨.refl _, .refl _⟩)
    (fun left right => ⟨left.entries.trans right.entries, left.events.trans right.events⟩)
    ?_ ?_ run
  · intro scope first second quiet
    rcases quiet.silent with ⟨entries, events | ⟨_, _, events⟩⟩
    · exact ⟨by rw [entries]; exact .refl _, by rw [events]; exact .refl _⟩
    · exact ⟨by rw [entries]; exact .refl _, by rw [events]; exact .insert _ _ _⟩
  · intro scope first second booking
    rcases booking.announced with ⟨entries, _, _, _, events⟩
    exact ⟨entries, by rw [events]; exact .insert _ _ _⟩

section Booked

variable {before after : Db} {intentId : Uuid}

theorem HeldKept.booked (kept : HeldKept before after) (logs : LogsKept before after)
    (tables : CreditTables before) (held : Held (xmrId intentId) before) :
    bookedRows (xmrId intentId) after = bookedRows (xmrId intentId) before := by
  unfold bookedRows
  rw [kept.grants intentId held]
  refine List.map_congr_left fun grant member => Option.bind_congr fun entryId isEntry => ?_
  rcases List.mem_map.mp member with ⟨granted, isGranted, rfl⟩
  exact logs.entries.get?_eq (tables.booked _ (grantsOf_eq.mp isGranted).1 entryId isEntry)

theorem HeldKept.announced (kept : HeldKept before after) (logs : LogsKept before after)
    (tables : CreditTables before) (held : Held (xmrId intentId) before) :
    announcedRows (xmrId intentId) after = announcedRows (xmrId intentId) before := by
  unfold announcedRows
  rw [kept.grants intentId held]
  refine List.map_congr_left fun grant member => Option.bind_congr fun seq isEvent => ?_
  rcases List.mem_map.mp member with ⟨granted, isGranted, rfl⟩
  exact logs.events.get?_eq (tables.announced _ (grantsOf_eq.mp isGranted).1 seq isEvent)

end Booked

/-! ## Outcomes that book nothing -/

section Outcomes

variable {intentId : Uuid} {observation : XmrReceiptObservation} {before after : Db}
  {outcome : CreditReceiptOutcome}

theorem Holds.silent {reason : CreditHold} (holds : Holds intentId reason before after) :
    after.ledgerEntries = before.ledgerEntries ∧ after.eventLog = before.eventLog := by
  cases holds
  exact ⟨rfl, rfl⟩

theorem recordXmrReceipt_silent
    (ran : recordXmrReceipt intentId observation before = .ok (outcome, after))
    (notRecorded : ∀ delta credit, outcome ≠ .recorded delta credit) :
    after.ledgerEntries = before.ledgerEntries ∧ after.eventLog = before.eventLog := by
  rcases recordXmrReceipt_cases ran with ⟨valuation, allocation, observed, conflict | settled⟩
  · rcases conflict with ⟨reason, _, reported⟩
    exact (reportHeld_cases reported).2.silent
  · rcases settled with ⟨noConflict, settled⟩
    rcases settleReceipt_cases settled with
      ⟨timely, rowid, stored, checked, isStored, doubleSpend | exits | granted⟩
    all_goals
      have frame := (storeReceipt_keeps isStored).readied_frame observation rowid
    · have silent := (reportHeld_cases doubleSpend.2).2.silent
      rw [frame] at silent
      exact silent
    · rw [exits.2.1, frame]
      exact ⟨rfl, rfl⟩
    · rcases granted with ⟨noDoubleSpend, free, isTimely, unlocked, granted⟩
      rcases readied_grantable observed free isTimely unlocked noConflict checked isStored with
        ⟨receipt, grantable, _, sameAmount⟩
      rcases grantReceipt_cases grantable sameAmount granted with
        ⟨_, holds, _⟩ | ⟨_, rfl, _⟩ | ⟨_, holds⟩ | ⟨delta, credit, _, recorded, _⟩
      · have silent := holds.silent
        rw [frame] at silent
        exact silent
      · rw [frame]
        exact ⟨rfl, rfl⟩
      · have silent := holds.silent
        rw [frame] at silent
        exact silent
      · exact absurd recorded (notRecorded delta credit)

theorem recordXmrReceipt_held (held : Held (xmrId intentId) before)
    (ran : recordXmrReceipt intentId observation before = .ok (outcome, after)) :
    outcome = .held := by
  rcases recordXmrReceipt_cases ran with ⟨valuation, allocation, observed, conflict | settled⟩
  · rcases conflict with ⟨reason, _, reported⟩
    exact (reportHeld_cases reported).1
  · have isHeld : allocation.read.holdReason.isSome = true := by
      rcases held with ⟨row, allocated, same, isHeld⟩
      rwa [before.creditAllocations.row_eq_of_key allocated observed.allocated
        (same.trans observed.allocatedId.symm)] at isHeld
    have settles := settled.2
    simp only [settleReceipt, bind_eq_ok, Prod.exists] at settles
    rcases settles with ⟨timely, _, rowid, stored, _, settles⟩
    split at settles
    · exact (reportHeld_cases settles).1
    · cases settles
      rfl

end Outcomes

/-! ## Observations that are always held -/

def XmrReceiptObservation.Contradicts (observation : XmrReceiptObservation)
    (receipt : AssetReceipt) : Prop :=
  receipt.amountAtomic ≠ observation.amount.atomicUnits ∨
    receipt.firstSeenAt ≠ some observation.firstSeenAt ∨
    (receipt.unlocked = true ∧ observation.unlocked = false) ∨
    observation.doubleSpendSeen = true

section AlwaysHeld

variable {intentId : Uuid} {observation : XmrReceiptObservation} {db : Db} {amount : Int}
  {valuation : Valuation}

theorem conflictReason_isSome {receipt : AssetReceipt} :
    (conflictReason receipt observation.amount.atomicUnits observation).isSome = true ↔
      observation.Contradicts receipt := by
  unfold conflictReason XmrReceiptObservation.Contradicts
  split
  · rename_i changed
    exact ⟨fun _ => changed.elim .inl fun seen => .inr (.inl seen), fun _ => rfl⟩
  · rename_i unchanged
    rcases not_or.mp unchanged with ⟨sameAmount, sameSeen⟩
    rw [or_iff_right sameAmount, or_iff_right sameSeen]
    split
    · rename_i regressed
      exact ⟨fun _ => .inl regressed, fun _ => rfl⟩
    · rename_i kept
      rw [or_iff_right kept]
      split
      · rename_i seen
        exact ⟨fun _ => seen, fun _ => rfl⟩
      · rename_i unseen
        exact ⟨fun impossible => absurd impossible (by simp), fun seen => absurd seen unseen⟩

theorem observed_of_bound (sound : CreditSound db)
    (valid : validateObservation observation = .ok amount)
    (bound : boundValuation (xmrId intentId) observation db = .ok valuation) :
    ∃ (intent : XmrCreditIntent) (allocation : AllocationRow), intent.id = intentId ∧
      valuation = intent.stored ∧
      Observed db intent.id observation intent.stored allocation := by
  simp only [boundValuation, bind_eq_ok, require_eq_ok, ensure_eq_ok, pure_eq_ok] at bound
  rcases bound with ⟨_, found, _, _, _, binds, rfl⟩
  have valued := List.mem_of_find?_eq_some found
  have selected := List.find?_some found
  simp only [Bool.and_eq_true, decide_eq_true_eq] at selected
  rcases sound.tables.quoted _ valued selected.2 with ⟨intent, _, rfl⟩
  rcases sound.tables.allocation_of_valuation valued with ⟨allocation, allocated, sameId⟩
  have account := sound.accounts intent valued allocation allocated sameId
  rw [(validateObservation_eq_ok.mp valid).2.2.2.2] at valid
  exact ⟨intent, allocation, xmrId_inj.mp selected.1, rfl, valid, valued, rfl, rfl, binds,
    allocated, sameId, account.nonneg, account.credited_nonneg⟩

theorem contradiction_held (sound : CreditSound db)
    (valid : validateObservation observation = .ok amount)
    (bound : boundValuation (xmrId intentId) observation db = .ok valuation)
    {entry : Nat × AssetReceipt}
    (found : findReceipt (xmrId intentId) observation.receiptKey db = some entry)
    (contradicts : observation.Contradicts entry.2) :
    ∃ after, recordXmrReceipt intentId observation db = .ok (.held, after) ∧
      Held (xmrId intentId) after := by
  rcases observed_of_bound sound valid bound with ⟨intent, allocation, rfl, rfl, observed⟩
  rcases Option.isSome_iff_exists.mp (conflictReason_isSome.mpr contradicts) with
    ⟨reason, isReason⟩
  rcases holdObservation_ok (xmrId intent.id) observation reason db with ⟨after, holds⟩
  have read := allocationInTx_eq observed.allocated observed.allocatedId
    observed.eligibleNonneg observed.creditedNonneg
  have reported : reportHeld (xmrId intent.id) observation reason db = .ok (.held, after) :=
    bind_eq_ok.mpr ⟨after, holds, rfl⟩
  refine ⟨after, ?_, held_of_holds observed.allocated observed.allocatedId
    (reportHeld_cases reported).2⟩
  refine bind_eq_ok.mpr ⟨_, observed.valid, bind_eq_ok.mpr ⟨_, bound, bind_eq_ok.mpr
    ⟨_, read, ?_⟩⟩⟩
  simp only [found, Option.bind_some, isReason]
  exact reported

theorem isTimely_ok (intent : XmrCreditIntent) (observation : XmrReceiptObservation) :
    ∃ timely, isTimely intent.stored observation = .ok timely := by
  have issued : intent.stored.issuedAt = some intent.quote.issuedAt := rfl
  have expires : intent.stored.expiresAt = some intent.quote.expiresAt := rfl
  rw [isTimely, issued, expires]
  by_cases early : observation.firstSeenAt < intent.quote.issuedAt
  · exact ⟨_, bind_eq_ok.mpr ⟨_, rfl, if_pos early⟩⟩
  · exact ⟨_, bind_eq_ok.mpr ⟨_, rfl, (if_neg early).trans rfl⟩⟩

/-- An observation of a receipt that was first seen outside the lifetime of the quote is
held. It leaves the allocations alone unless it reports a double spend or contradicts
what is stored. -/
theorem late_held (sound : CreditSound db)
    (valid : validateObservation observation = .ok amount)
    (bound : boundValuation (xmrId intentId) observation db = .ok valuation)
    (late : ¬ InWindow valuation (some observation.firstSeenAt)) :
    ∃ after, recordXmrReceipt intentId observation db = .ok (.held, after) ∧
      (observation.doubleSpendSeen = false →
        (∀ entry, findReceipt (xmrId intentId) observation.receiptKey db = some entry →
          ¬ observation.Contradicts entry.2) →
        after.creditAllocations = db.creditAllocations) := by
  by_cases conflicts : ∃ entry, findReceipt (xmrId intentId) observation.receiptKey db =
      some entry ∧ observation.Contradicts entry.2
  · rcases conflicts with ⟨entry, found, contradicts⟩
    rcases contradiction_held sound valid bound found contradicts with ⟨after, reported, _⟩
    exact ⟨after, reported, fun _ agrees => absurd contradicts (agrees entry found)⟩
  · rcases observed_of_bound sound valid bound with ⟨intent, allocation, rfl, rfl, observed⟩
    have noConflict : storedConflict intent.id observation db = none := by
      unfold storedConflict
      refine Option.bind_eq_none_iff.mpr fun entry found => Option.not_isSome_iff_eq_none.mp
        fun isSome => conflicts ⟨entry, found, conflictReason_isSome.mp isSome⟩
    rcases isTimely_ok intent observation with ⟨timely, checked⟩
    have isLate : timely = false := by
      cases timely with
      | false => rfl
      | true => exact absurd ((isTimely_eq_ok checked).mp rfl) late
    subst isLate
    rcases storeReceipt_ok valid (xmrId intent.id) false db with ⟨rowid, stored, isStored⟩
    have frame := (storeReceipt_keeps isStored).readied_frame observation rowid
    rw [recordXmrReceipt_eq observed noConflict]
    cases doubleSpend : observation.doubleSpendSeen with
    | true =>
        rcases holdObservation_ok (xmrId intent.id) observation .doubleSpend
          (readied observation rowid stored) with ⟨after, holds⟩
        refine ⟨after, ?_, fun impossible => absurd impossible (by simp)⟩
        refine bind_eq_ok.mpr ⟨_, checked, bind_eq_ok.mpr ⟨_, isStored, ?_⟩⟩
        exact (if_pos doubleSpend).trans (bind_eq_ok.mpr ⟨after, holds, rfl⟩)
    | false =>
        refine ⟨readied observation rowid stored, ?_, fun _ _ => by rw [frame]⟩
        refine bind_eq_ok.mpr ⟨_, checked, bind_eq_ok.mpr ⟨_, isStored, ?_⟩⟩
        refine (if_neg (by simp [doubleSpend])).trans ?_
        by_cases held : allocation.read.holdReason.isSome = true
        · exact if_pos held
        · exact (if_neg held).trans (if_pos rfl)

end AlwaysHeld

/-! ## Every run -/

section Runs

variable [SerdeJson] {before after : Db} {label : LedgerLabel} {intentId : Uuid}
  {observation : XmrReceiptObservation}

theorem held_silent (step : LedgerStep before label after)
    (isIntent : label.call.scope = .intent intentId) (held : Held (xmrId intentId) before) :
    after.ledgerEntries = before.ledgerEntries ∧ after.eventLog = before.eventLog := by
  rcases label with ⟨call, now, result⟩
  rcases ledgerStep_cases step with ⟨_, _, rfl⟩ | ⟨response, _, ran⟩
  · exact ⟨rfl, rfl⟩
  · cases call with
    | recordXmrReceipt id observed =>
        cases isIntent
        simp only [LedgerCall.body, transact_eq_ok] at ran
        rcases ran with ⟨outcome, recorded, _⟩
        have reported := recordXmrReceipt_held held recorded
        exact recordXmrReceipt_silent recorded fun _ _ => by rw [reported]; simp
    | registerXmrCreditIntent intent =>
        simp only [LedgerCall.body, transact_eq_ok] at ran
        rcases ran with ⟨_, registered, _⟩
        rcases registerXmrCreditIntent_cases registered with ⟨rfl, _⟩ | registers
        · exact ⟨rfl, rfl⟩
        · cases registers
          exact ⟨rfl, rfl⟩
    | holdXmrCreditIntent id =>
        simp only [LedgerCall.body, transact_eq_ok] at ran
        rcases ran with ⟨_, holds, _⟩
        exact (holdXmrCreditIntent_cases holds).silent
    | _ => cases isIntent

/-- An observation that is not recorded leaves the feed credit and the events alone. -/
theorem unrecorded_silent {outcome : CreditReceiptOutcome}
    (step : LedgerStep before label after)
    (isReceipt : label.call = .recordXmrReceipt intentId observation)
    (reported : label.result = .ok (.receipt outcome))
    (notRecorded : ∀ delta credit, outcome ≠ .recorded delta credit) :
    after.ledgerEntries = before.ledgerEntries ∧ after.eventLog = before.eventLog := by
  rcases ledgerStep_cases step with ⟨_, _, rfl⟩ | ⟨response, succeeded, ran⟩
  · exact ⟨rfl, rfl⟩
  · rw [isReceipt] at ran
    simp only [LedgerCall.body, transact_eq_ok] at ran
    rcases ran with ⟨_, recorded, rfl⟩
    cases reported.symm.trans succeeded
    exact recordXmrReceipt_silent recorded notRecorded

theorem execute_receipt {outcome : CreditReceiptOutcome} {now : Int}
    (recorded : recordXmrReceipt intentId observation before = .ok (outcome, after)) :
    execute (.recordXmrReceipt intentId observation) now before =
      (.ok (.receipt outcome), after) := by
  have ran : (LedgerCall.recordXmrReceipt intentId observation).body now before =
      .ok (.receipt outcome, after) := by
    simp only [LedgerCall.body, transact_eq_ok]
    exact ⟨outcome, recorded, rfl⟩
  unfold execute
  rw [ran]

end Runs

/-- What a hold and a stored receipt keep over every run, and what every call keeps that
is held, pending, a duplicate or refused. -/
theorem holds_last [SerdeJson] {earlier labels : List LedgerLabel} {before after : Db}
    (reached : LedgerRun Db.fresh earlier before) (run : LedgerRun before labels after) :
    (∀ intentId, ∀ allocation ∈ before.creditAllocations.rows,
      allocation.valuationId = xmrId intentId → allocation.holdReason.isSome = true →
        allocation ∈ after.creditAllocations.rows ∧
        grantRows (xmrId intentId) after = grantRows (xmrId intentId) before ∧
        bookedRows (xmrId intentId) after = bookedRows (xmrId intentId) before ∧
        announcedRows (xmrId intentId) after = announcedRows (xmrId intentId) before) ∧
    ReceiptsKept before after ∧
    (∀ label final, LedgerStep after label final →
      (∀ error, label.result = .error error → final = after) ∧
      (∀ intentId, label.call.scope = .intent intentId → Held (xmrId intentId) after →
        final.ledgerEntries = after.ledgerEntries ∧ final.eventLog = after.eventLog) ∧
      ∀ intentId observation outcome, label.call = .recordXmrReceipt intentId observation →
        label.result = .ok (.receipt outcome) →
        outcome = .held ∨ outcome = .pending ∨ outcome = .duplicate →
          feedCreditSats final = feedCreditSats after ∧ final.eventLog = after.eventLog) ∧
    ∀ intentId observation amount valuation now,
      validateObservation observation = .ok amount →
      boundValuation (xmrId intentId) observation after = .ok valuation →
      (∀ entry, findReceipt (xmrId intentId) observation.receiptKey after = some entry →
        observation.Contradicts entry.2 →
          ∃ final, execute (.recordXmrReceipt intentId observation) now after =
            (.ok (.receipt .held), final) ∧ Held (xmrId intentId) final) ∧
      (¬ InWindow valuation (some observation.firstSeenAt) →
        ∃ final, execute (.recordXmrReceipt intentId observation) now after =
            (.ok (.receipt .held), final) ∧
          (observation.doubleSpendSeen = false →
            (∀ entry, findReceipt (xmrId intentId) observation.receiptKey after = some entry →
              ¬ observation.Contradicts entry.2) →
            final.creditAllocations = after.creditAllocations)) := by
  have tables := (CreditSound.of_run reached).tables
  have sound := CreditSound.of_run (reached.append run)
  have kept := HeldKept.of_run tables run
  have logs := LogsKept.of_run run
  refine ⟨?_, .of_run run, ?_, ?_⟩
  · intro intentId allocation allocated same isHeld
    have held : Held (xmrId intentId) before := ⟨allocation, allocated, same, isHeld⟩
    exact ⟨kept.allocations allocation allocated isHeld, kept.grants intentId held,
      kept.booked logs tables held, kept.announced logs tables held⟩
  · intro label final step
    refine ⟨fun error failed => ledgerStep_error step failed,
      fun intentId isIntent held => held_silent step isIntent held, ?_⟩
    intro intentId observation outcome isReceipt reported unrecorded
    have silent := unrecorded_silent step isReceipt reported fun delta credit isRecorded => by
      rw [isRecorded] at unrecorded
      simp at unrecorded
    refine ⟨?_, silent.2⟩
    unfold feedCreditSats feedCreditInTransaction
    rw [silent.1]
  · intro intentId observation amount valuation now valid bound
    constructor
    · intro entry found contradicts
      rcases contradiction_held sound valid bound found contradicts with ⟨final, recorded, held⟩
      exact ⟨final, execute_receipt recorded, held⟩
    · intro late
      rcases late_held sound valid bound late with ⟨final, recorded, same⟩
      exact ⟨final, execute_receipt recorded, same⟩

def lateDoubleSpend : XmrReceiptObservation where
  __ := exampleObservation "late" threePiconero
  firstSeenAt := 25
  doubleSpendSeen := true

/-- A late receipt does set a hold when it is a double spend. -/
theorem late_double_spend_sets_hold :
    letI := exampleJson
    ∃ labels before after,
      LedgerRun Db.fresh labels before ∧
        ¬ InWindow exampleIntent.stored (some lateDoubleSpend.firstSeenAt) ∧
        execute (.recordXmrReceipt ⟨1⟩ lateDoubleSpend) 26 before =
          (.ok (.receipt .held), after) ∧
        xmrCreditAllocation ⟨1⟩ before = .ok ⟨0, 0, none⟩ ∧
        xmrCreditAllocation ⟨1⟩ after = .ok ⟨0, 0, some .doubleSpend⟩ := by
  let := exampleJson
  have late : ¬ InWindow exampleIntent.stored (some lateDoubleSpend.firstSeenAt) := by
    rintro ⟨_, ⟨⟩, _, ⟨⟩, _, ⟨⟩, _, before⟩
    exact absurd before (by decide)
  have outcome : (execute (.recordXmrReceipt ⟨1⟩ lateDoubleSpend) 26
      (replay [(.registerXmrCreditIntent exampleIntent, 11)] Db.fresh)).1 =
        .ok (.receipt .held) := by decide +kernel
  exact ⟨_, _, _, replay_run [(.registerXmrCreditIntent exampleIntent, 11)] _, late,
    Prod.ext outcome rfl, by decide +kernel, by decide +kernel⟩

/-- A receipt is credited, and then a double spend of another one is seen. -/
def heldCalls : List (LedgerCall × Int) :=
  [(.registerXmrCreditIntent exampleIntent, 11),
    (.recordXmrReceipt ⟨1⟩ (exampleObservation "a" threePiconero), 12),
    (.recordXmrReceipt ⟨1⟩ lateDoubleSpend, 26)]

/-- Neither another receipt in time nor a payment nor the end of the double spend
releases the hold, and the grant before it stays. -/
def laterCalls : List (LedgerCall × Int) :=
  [(.recordXmrReceipt ⟨1⟩ (exampleObservation "b" twoPiconero), 27),
    (.recordPayment examplePayment, 28),
    (.recordXmrReceipt ⟨1⟩ { lateDoubleSpend with doubleSpendSeen := false }, 29)]

theorem holds_last_example :
    letI := exampleJson
    ∃ before after, LedgerRun Db.fresh (labelsOf heldCalls Db.fresh) before ∧
      LedgerRun before (labelsOf laterCalls before) after ∧
      ⟨xmrId ⟨1⟩, 3, 1, some .doubleSpend⟩ ∈ after.creditAllocations.rows ∧
      grantRows (xmrId ⟨1⟩) after = [⟨1, 1, 3, 1, some 1, some 1⟩] ∧
      bookedRows (xmrId ⟨1⟩) after = bookedRows (xmrId ⟨1⟩) before := by
  let := exampleJson
  have reached := replay_run heldCalls Db.fresh
  have run := replay_run laterCalls (replay heldCalls Db.fresh)
  have held := (holds_last reached run).1 ⟨1⟩ ⟨xmrId ⟨1⟩, 3, 1, some .doubleSpend⟩
    (by decide +kernel) rfl rfl
  have granted : grantRows (xmrId ⟨1⟩) (replay heldCalls Db.fresh) =
      [⟨1, 1, 3, 1, some 1, some 1⟩] := by decide +kernel
  exact ⟨_, _, reached, run, held.1, held.2.1.trans granted, held.2.2.1⟩

end LightningGoats
