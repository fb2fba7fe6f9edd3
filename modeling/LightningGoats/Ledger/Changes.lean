import LightningGoats.Ledger.ReceiptEffects

/-! # The changes that calls are made of

A quiet change touches neither the ledger entries nor the announced balance. A
booking changes or announces the balance. A successful call is a sequence of
quiet changes that at most one booking ends.
-/

namespace LightningGoats

open Outcome Relational

inductive Scope
  | payments
  | intent (id : Uuid)
  | feeder
  | strike
  | events
  deriving DecidableEq

def LedgerCall.scope : LedgerCall → Scope
  | recordPayment _ => .payments
  | registerXmrCreditIntent intent => .intent intent.id
  | recordXmrReceipt intentId _ => .intent intentId
  | holdXmrCreditIntent intentId => .intent intentId
  | markInterruptedFeedIntentsUnknown => .feeder
  | beginFeedAttempt _ _ => .feeder
  | confirmFeedAttempt _ => .feeder
  | markFeedUnknown _ _ => .feeder
  | reconcileUnknownAsFed _ => .feeder
  | reconcileUnknownAsNotFed _ => .feeder
  | resolveFeedNotDispatched _ _ => .feeder
  | recordStrikeReceiveRequest _ => .strike
  | enqueueStrikeEvent _ => .strike
  | enqueueStrikeWork _ _ => .strike
  | finishStrikeWork _ => .strike
  | retryStrikeWork _ _ => .strike
  | recordStrikeScan _ _ _ _ => .strike
  | _ => .events

inductive Quiet : Scope → Db → Db → Prop
  | registers {intent : XmrCreditIntent} {before after : Db} :
      Registers intent before after → Quiet (.intent intent.id) before after
  | holds {intentId : Uuid} {reason : CreditHold} {before after : Db} :
      (reason = .allocationMismatch →
        ∃ valuation ∈ before.creditValuations.rows, valuation.asset = .xmr ∧
          ∃ allocation ∈ before.creditAllocations.rows,
            allocation.valuationId = valuation.id ∧ Misaligned valuation allocation before) →
      Holds intentId reason before after → Quiet (.intent intentId) before after
  | stores {intentId : Uuid} {before after : Db} :
      Stores intentId before after → Quiet (.intent intentId) before after
  | unlocks {intentId : Uuid} {receiptId : Nat} {receipt : AssetReceipt} {before : Db}
      (stored : (receiptId, receipt) ∈ before.assetReceipts.entries)
      (owned : receipt.valuationId = xmrId intentId) :
      Quiet (.intent intentId) before (unlockReceipt receiptId before)
  | grantsDust {intentId : Uuid} {receiptId : Nat} {update : CreditUpdate} {before after : Db} :
      GrantsDust intentId receiptId update before after → Quiet (.intent intentId) before after
  | begins {thresholdSats : Nat} {drawn : Uuid} {now : Int} {before after : Db} :
      Begins thresholdSats drawn now before after → Quiet .feeder before after
  | moves {before after : Db} : MovesAttempts before after → Quiet .feeder before after
  | cools (before : Db) (resume : Int) (later : before.feederCooldown ≤ resume) :
      Quiet .feeder before { before with feederCooldown := resume }
  | logs {scope : Scope} {before after : Db} : Logs before after → Quiet scope before after
  | strike (before : Db) (requests : Table StrikeReceiveRequestRow.Clash)
      (inbox : Table InboxRow.Clash) (scans : Table ScanRow.Clash) :
      Quiet .strike before { before with
        strikeReceiveRequests := requests
        strikeInbox := inbox
        strikeRecoveryScan := scans }

inductive Booking : Scope → Db → Db → Prop
  | settles {payment : SettledPayment} {before after : Db} :
      Settles payment before after → Booking .payments before after
  | grants {intentId : Uuid} {receiptId : Nat} {update : CreditUpdate} {before after : Db} :
      GrantsSats intentId receiptId update before after → Booking (.intent intentId) before after
  | debits {id : Uuid} {now : Int} {before after : Db} :
      Debits id now before after → Booking .feeder before after
  | announces {before after : Db} : Announces before after → Booking .feeder before after

abbrev Quietly (scope : Scope) : Db → Db → Prop :=
  Relation.ReflTransGen (Quiet scope)

def Effect (scope : Scope) (before after : Db) : Prop :=
  ∃ middle, Quietly scope before middle ∧ (after = middle ∨ Booking scope middle after)

namespace Effect

variable {scope : Scope}

theorem refl (db : Db) : Effect scope db db :=
  ⟨db, .refl, .inl rfl⟩

theorem quietly {before after : Db} (quiet : Quietly scope before after) : Effect scope before after :=
  ⟨after, quiet, .inl rfl⟩

theorem single {before after : Db} (quiet : Quiet scope before after) : Effect scope before after :=
  quietly (.single quiet)

theorem booked {before middle after : Db} (quiet : Quietly scope before middle)
    (booking : Booking scope middle after) : Effect scope before after :=
  ⟨middle, quiet, .inr booking⟩

/-- What every change keeps, every call keeps. -/
theorem invariant {property : Db → Prop}
    (quietKeeps : ∀ {before after}, property before → Quiet scope before after → property after)
    (bookingKeeps : ∀ {before after}, property before → Booking scope before after →
      property after)
    {before after : Db} (effect : Effect scope before after) (holds : property before) :
    property after := by
  rcases effect with ⟨middle, quiet, ending⟩
  have atMiddle : property middle := by
    clear ending
    induction quiet with
    | refl => exact holds
    | tail _ change induction => exact quietKeeps induction change
  rcases ending with rfl | booking
  · exact atMiddle
  · exact bookingKeeps atMiddle booking

/-- A reflexive and transitive relation that every change respects relates the
databases before and after a call. -/
theorem relates {relation : Db → Db → Prop} (reflexive : ∀ db, relation db db)
    (transitive : ∀ {first second third}, relation first second → relation second third →
      relation first third)
    (quietRelates : ∀ {before after}, Quiet scope before after → relation before after)
    (bookingRelates : ∀ {before after}, Booking scope before after → relation before after)
    {before after : Db} (effect : Effect scope before after) : relation before after := by
  rcases effect with ⟨middle, quiet, ending⟩
  have upToMiddle : relation before middle := by
    clear ending
    induction quiet with
    | refl => exact reflexive _
    | tail _ change induction => exact transitive induction (quietRelates change)
  rcases ending with rfl | booking
  · exact upToMiddle
  · exact transitive upToMiddle (bookingRelates booking)

end Effect

/-! ## Receipts -/

section Receipts

variable {intentId : Uuid} {observation : XmrReceiptObservation} {valuation : Valuation}
  {allocation : AllocationRow} {db stored : Db} {rowid : Nat} {timely : Bool}

theorem held_of_holds {reason : CreditHold} {before after : Db}
    (allocated : allocation ∈ before.creditAllocations.rows)
    (allocatedId : allocation.valuationId = xmrId intentId)
    (holds : Holds intentId reason before after) : Held (xmrId intentId) after := by
  cases holds with
  | intro conflicts =>
      refine ⟨allocation.hold (xmrId intentId) reason, ?_, ?_, ?_⟩
      · simpa [holdAllocation] using ⟨allocation, allocated, rfl⟩
      · simp [allocatedId]
      · cases prior : allocation.holdReason <;>
          simp [AllocationRow.hold, allocatedId, prior]

inductive KeepsReceipt (row : AssetReceipt) : Db → Db → Prop
  | same (db : Db) : KeepsReceipt row db db
  | added {db : Db} (valid : row.Valid) (fresh : db.assetReceipts.Fresh row) :
      KeepsReceipt row db { db with assetReceipts := db.assetReceipts.insert row fresh }

theorem storeReceipt_keeps {existing : Option (Nat × AssetReceipt)} {id : String}
    (isStored : storeReceipt id observation.amount.atomicUnits observation timely existing db =
      .ok (rowid, stored)) :
    KeepsReceipt (observation.receipt id timely) db stored := by
  rcases storeReceipt_cases isStored with ⟨_, _, _, rfl⟩ | ⟨_, _, valid, fresh, rfl⟩
  · exact .same _
  · exact .added valid fresh

theorem KeepsReceipt.readied_frame {row : AssetReceipt} (keeps : KeepsReceipt row db stored)
    (observation : XmrReceiptObservation) (rowid : Nat) :
    readied observation rowid stored =
      { db with assetReceipts := (readied observation rowid stored).assetReceipts } := by
  unfold readied
  cases keeps with
  | same => split <;> rfl
  | added valid fresh => split <;> rfl

theorem readied_quietly (valued : valuation ∈ db.creditValuations.rows)
    (isId : valuation.id = xmrId intentId) (isXmr : valuation.asset = .xmr)
    (checked : isTimely valuation observation = .ok timely)
    (doubleSpendHeld : observation.doubleSpendSeen = true → Held (xmrId intentId) db)
    (keeps : KeepsReceipt (observation.receipt (xmrId intentId) timely) db stored)
    {receipt : AssetReceipt} (isStored : (rowid, receipt) ∈ stored.assetReceipts.entries)
    (owned : receipt.valuationId = xmrId intentId) :
    Quietly (.intent intentId) db (readied observation rowid stored) := by
  have storing : Quietly (.intent intentId) db stored := by
    cases keeps with
    | same => exact .refl
    | added valid fresh =>
      refine .single (.stores (.intro valued isId isXmr rfl valid.2.1 rfl ?_ ?_ fresh))
      · intro eligible
        have parts := Bool.and_eq_true_iff.mp eligible
        exact (isTimely_eq_ok checked).mp parts.1
      · intro ineligible inWindow
        have isTimely := (isTimely_eq_ok checked).mpr inWindow
        refine doubleSpendHeld ?_
        simpa [XmrReceiptObservation.receipt, isTimely] using ineligible
  unfold readied
  split
  · exact storing.tail (.unlocks isStored owned)
  · exact storing

theorem findReceipt_eq_some {id receiptKey : String} {entry : Nat × AssetReceipt}
    (found : findReceipt id receiptKey db = some entry) :
    entry ∈ db.assetReceipts.entries ∧ entry.2.valuationId = id ∧
      entry.2.receiptKey = receiptKey := by
  have selected := List.find?_some found
  simp only [Bool.and_eq_true, decide_eq_true_eq] at selected
  exact ⟨List.mem_of_find?_eq_some found, selected⟩

theorem receipt_valid {amount : Int} (valid : validateObservation observation = .ok amount)
    (id : String) (timely : Bool) : (observation.receipt id timely).Valid := by
  rcases validateObservation_eq_ok.mp valid with ⟨key, _, nonzero, seen, _⟩
  refine ⟨fitsColumn_externalId key, Int.natCast_pos.mpr (Nat.pos_of_ne_zero nonzero), ?_⟩
  rintro _ ⟨⟩
  exact seen

theorem receipt_fresh {id : String} (absent : findReceipt id observation.receiptKey db = none)
    (timely : Bool) : db.assetReceipts.Fresh (observation.receipt id timely) := by
  rintro existing member (keys | settlements)
  · rcases sameKey_iff.mp keys with ⟨pair, oldPair, newPair⟩
    have same := Option.some.inj (oldPair.trans newPair.symm)
    rcases Table.mem_rows.mp member with ⟨rowid, stored⟩
    have unmatched := List.find?_eq_none.mp absent _ stored
    simp only [Bool.and_eq_true, decide_eq_true_eq, not_and] at unmatched
    exact unmatched (congrArg Prod.fst same) (congrArg Prod.snd same)
  · rcases sameKey_iff.mp settlements with ⟨_, _, isNone⟩
    cases isNone

theorem storeReceipt_ok {amount : Int} (valid : validateObservation observation = .ok amount)
    (id : String) (timely : Bool) (db : Db) :
    ∃ rowid stored, storeReceipt id observation.amount.atomicUnits observation timely
      (findReceipt id observation.receiptKey db) db = .ok (rowid, stored) := by
  cases search : findReceipt id observation.receiptKey db with
  | some entry => exact ⟨entry.1, db, rfl⟩
  | none =>
      have inserted : insertRow "asset_receipts" AssetReceipt.Valid db.assetReceipts
          (observation.receipt id timely) = .ok (_, _) :=
        insertRow_eq_ok.mpr ⟨receipt_valid valid id timely, rfl, receipt_fresh search timely, rfl⟩
      exact ⟨_, _, bind_eq_ok.mpr ⟨_, inserted, rfl⟩⟩

theorem storeReceipt_owned {id : String}
    (isStored : storeReceipt id observation.amount.atomicUnits observation timely
      (findReceipt id observation.receiptKey db) db = .ok (rowid, stored)) :
    ∃ receipt, (rowid, receipt) ∈ stored.assetReceipts.entries ∧ receipt.valuationId = id := by
  rcases storeReceipt_cases isStored with ⟨entry, found, rfl, rfl⟩ | ⟨_, rfl, _, fresh, rfl⟩
  · rcases findReceipt_eq_some found with ⟨member, sameId, _⟩
    exact ⟨entry.2, member, sameId⟩
  · exact ⟨_, Table.mem_entries_insert_new fresh, rfl⟩

/-- An observation that contradicts nothing stored agrees with what is stored. -/
theorem conflictReason_eq_none {row : AssetReceipt} {amount : Int}
    (none : conflictReason row amount observation = none) :
    row.amountAtomic = amount ∧ row.firstSeenAt = some observation.firstSeenAt ∧
      (row.unlocked = true → observation.unlocked = true) ∧
      observation.doubleSpendSeen = false := by
  unfold conflictReason at none
  split at none
  · cases none
  · rename_i unchanged
    split at none
    · cases none
    · rename_i kept
      split at none
      · cases none
      · rename_i noDoubleSpend
        have same := not_or.mp unchanged
        refine ⟨not_not.mp same.1, not_not.mp same.2, ?_, by simpa using noDoubleSpend⟩
        intro unlocked
        by_contra locked
        exact kept ⟨unlocked, by simpa using locked⟩

/-- The receipt that an observation has readied, when it is unlocked and
contradicts nothing stored. -/
theorem readied_stored (unlocked : observation.unlocked = true)
    (noConflict : storedConflict intentId observation db = none)
    (isStored : storeReceipt (xmrId intentId) observation.amount.atomicUnits observation
      timely (findReceipt (xmrId intentId) observation.receiptKey db) db =
        .ok (rowid, stored)) :
    ∃ receipt, (rowid, receipt) ∈ (readied observation rowid stored).assetReceipts.entries ∧
      receipt.valuationId = xmrId intentId ∧ receipt.receiptKey = observation.receiptKey ∧
      receipt.amountAtomic = observation.amount.atomicUnits ∧
      receipt.firstSeenAt = some observation.firstSeenAt ∧ receipt.unlocked = true := by
  have isReadied : readied observation rowid stored = unlockReceipt rowid stored := by
    rw [readied, if_pos unlocked]
  rw [isReadied]
  rcases storeReceipt_cases isStored with ⟨entry, found, rfl, rfl⟩ | ⟨_, rfl, _, fresh, rfl⟩
  · rcases findReceipt_eq_some found with ⟨member, sameId, sameKey⟩
    rw [storedConflict, found] at noConflict
    rcases conflictReason_eq_none noConflict with ⟨sameAmount, sameSeen, _, _⟩
    refine ⟨entry.2.unlock entry.1 entry.1, ?_, ?_⟩
    · exact List.mem_map_of_mem member
    · simp [AssetReceipt.unlock, sameId, sameKey, sameAmount, sameSeen]
  · refine ⟨observation.receipt (xmrId intentId) timely, ?_, rfl, rfl, rfl, rfl, unlocked⟩
    simp only [unlockReceipt, Table.entries_updateEntries, Table.entries_insert,
      List.map_append, List.mem_append]
    refine .inr ?_
    simp [AssetReceipt.unlock, XmrReceiptObservation.receipt, unlocked]

/-- The receipt of an unlocked timely observation of a free allocation can be granted. -/
theorem readied_grantable (observed : Observed db intentId observation valuation allocation)
    (free : allocation.read.holdReason = none) (isTimely : timely = true)
    (unlocked : observation.unlocked = true)
    (noConflict : storedConflict intentId observation db = none)
    (checked : LightningGoats.isTimely valuation observation = .ok timely)
    (isStored : storeReceipt (xmrId intentId) observation.amount.atomicUnits observation
      timely (findReceipt (xmrId intentId) observation.receiptKey db) db =
        .ok (rowid, stored)) :
    ∃ receipt, Grantable (readied observation rowid stored) intentId valuation allocation
      rowid receipt ∧ receipt.receiptKey = observation.receiptKey ∧
      receipt.amountAtomic = observation.amount.atomicUnits := by
  rcases readied_stored unlocked noConflict isStored with
    ⟨receipt, member, sameId, sameKey, sameAmount, sameSeen, isUnlocked⟩
  have frame := (storeReceipt_keeps isStored).readied_frame observation rowid
  refine ⟨receipt, {
    valued := by rw [frame]; exact observed.valued
    isId := observed.isId
    isXmr := observed.isXmr
    allocated := by rw [frame]; exact observed.allocated
    allocatedId := observed.allocatedId
    eligibleNonneg := observed.eligibleNonneg
    creditedNonneg := observed.creditedNonneg
    free := free
    stored := member
    storedId := sameId
    unlocked := isUnlocked
    timely := sameSeen ▸ (isTimely_eq_ok checked).mp isTimely }, sameKey, sameAmount⟩

/-- A hold shares no table with the storing of a receipt, so it may come first. -/
theorem KeepsReceipt.withHold {row : AssetReceipt} {reason : CreditHold}
    (keeps : KeepsReceipt row db stored) (conflicts : Table CreditConflict.Clash) :
    KeepsReceipt row
      (holdAllocation (xmrId intentId) reason { db with creditConflicts := conflicts }).1
      (holdAllocation (xmrId intentId) reason { stored with creditConflicts := conflicts }).1 := by
  cases keeps with
  | same => exact .same _
  | added valid fresh =>
      exact @KeepsReceipt.added row (holdAllocation (xmrId intentId) reason
        { db with creditConflicts := conflicts }).1 valid fresh

theorem readied_withHold {reason : CreditHold}
    {conflicts : Table CreditConflict.Clash} :
    readied observation rowid (holdAllocation (xmrId intentId) reason
        { stored with creditConflicts := conflicts }).1 =
      (holdAllocation (xmrId intentId) reason
        { readied observation rowid stored with creditConflicts := conflicts }).1 := by
  unfold readied
  split <;> rfl

theorem recordXmrReceipt_effect {before after : Db} {outcome : CreditReceiptOutcome}
    (ran : recordXmrReceipt intentId observation before = .ok (outcome, after)) :
    Effect (.intent intentId) before after := by
  rcases recordXmrReceipt_cases ran with ⟨valuation, allocation, observed, conflict | settled⟩
  · rcases conflict with ⟨reason, isConflict, reported⟩
    have notMismatch : reason ≠ .allocationMismatch := by
      rcases Option.bind_eq_some_iff.mp isConflict with ⟨entry, _, isReason⟩
      unfold conflictReason at isReason
      rintro rfl
      split at isReason
      · cases isReason
      · split at isReason
        · cases isReason
        · split at isReason <;> cases isReason
    exact .single (.holds (fun mismatch => absurd mismatch notMismatch)
      (reportHeld_cases reported).2)
  · rcases settled with ⟨noConflict, settled⟩
    rcases settleReceipt_cases settled with
      ⟨timely, rowid, stored, checked, isStored, doubleSpend | exits | granted⟩
    all_goals
      have keeps := storeReceipt_keeps isStored
      rcases storeReceipt_owned isStored with ⟨receipt, receiptStored, owned⟩
    · -- The hold is moved before the store, with which it shares no table.
      rcases doubleSpend with ⟨isDoubleSpend, reported⟩
      rcases reportHeld_cases reported with ⟨_, ⟨conflicts⟩⟩
      have holds : Holds intentId .doubleSpend before _ := .intro conflicts
      have isHeld := held_of_holds observed.allocated observed.allocatedId holds
      have first : Quiet (.intent intentId) before _ :=
        .holds (fun mismatch => by cases mismatch) holds
      have valued : valuation ∈ (holdAllocation (xmrId intentId) .doubleSpend
        { before with creditConflicts := conflicts }).1.creditValuations.rows := observed.valued
      have rest := readied_quietly valued observed.isId observed.isXmr checked
        (fun _ => isHeld) (keeps.withHold conflicts) receiptStored owned
      rw [readied_withHold] at rest
      exact .quietly (rest.head first)
    · rcases exits with ⟨noDoubleSpend, rfl, _⟩
      exact .quietly (readied_quietly observed.valued observed.isId observed.isXmr checked
        (fun isDoubleSpend => by rw [noDoubleSpend] at isDoubleSpend; cases isDoubleSpend)
        keeps receiptStored owned)
    · rcases granted with ⟨noDoubleSpend, free, isTimely, unlocked, granted⟩
      have readying := readied_quietly observed.valued observed.isId observed.isXmr checked
        (fun isDoubleSpend => by rw [noDoubleSpend] at isDoubleSpend; cases isDoubleSpend)
        keeps receiptStored owned
      rcases readied_grantable observed free isTimely unlocked noConflict checked isStored with
        ⟨receipt, grantable, _, sameAmount⟩
      rcases grantReceipt_cases grantable sameAmount granted with
        ⟨_, holds, misaligned⟩ | ⟨_, rfl, _⟩ | ⟨_, holds⟩ | ⟨_, _, _, _, dust | sats⟩
      · have mismatch : Quiet (.intent intentId) _ after := .holds (fun _ => ⟨valuation, grantable.valued,
          grantable.isXmr, allocation, grantable.allocated,
          grantable.allocatedId.trans grantable.isId.symm, misaligned⟩) holds
        exact .quietly (readying.tail mismatch)
      · exact .quietly readying
      · exact .quietly (readying.tail (.holds (fun mismatch => by cases mismatch) holds))
      · exact .quietly (readying.tail (.grantsDust dust))
      · exact .booked readying (.grants sats)

end Receipts

/-! ## All calls -/

theorem markInterrupted_effect {before after : Db} {count : Nat}
    (ran : markInterruptedFeedIntentsUnknown before = .ok (count, after)) :
    Effect .feeder before after := by
  have moves : Quiet .feeder before _ := .moves (.intro .interrupted fun attempt => by
    rintro ⟨⟩)
  rcases markInterrupted_cases ran with rfl | logs
  · exact .single moves
  · exact .quietly (.tail (.single moves) (.logs logs))

theorem resolveNotDispatched_effect {id : Uuid} {retryAfterSeconds : Nat} {now : Int}
    {before after : Db}
    (ran : resolveFeedNotDispatched id retryAfterSeconds now before = .ok ((), after)) :
    Effect .feeder before after := by
  have moves : Quiet .feeder before _ := .moves (.intro (.notDispatched id now) fun attempt => by
    rintro ⟨⟩)
  have cools := Quiet.cools (updateAttempts (.notDispatched id now) before).1
    (max before.feederCooldown (now + retryAfterSeconds)) (Int.le_max_left _ _)
  exact .quietly (.tail (.tail (.single moves) cools)
    (.logs (resolveNotDispatched_cases ran).2))

theorem strike_effect {before after : Db}
    (only : after = { before with
      strikeReceiveRequests := after.strikeReceiveRequests
      strikeInbox := after.strikeInbox
      strikeRecoveryScan := after.strikeRecoveryScan }) : Effect .strike before after := by
  rw [only]
  exact .single (.strike before _ _ _)

theorem recordStrikeReceiveRequest_effect {request : StoredStrikeReceiveRequest} {now : Int}
    {before after : Db}
    (ran : recordStrikeReceiveRequest request now before = .ok ((), after)) :
    Effect .strike before after := by
  simp only [recordStrikeReceiveRequest, bind_eq_ok] at ran
  rcases ran with ⟨_, _, _, _, _, _, _, _, _, _, _, _, _, _, ran⟩
  split at ran
  · simp only [bind_eq_ok, pure_eq_ok, Prod.mk.injEq, true_and] at ran
    rcases ran with ⟨_, _, rfl⟩
    exact .refl _
  · simp only [bind_eq_ok, pure_eq_ok, Prod.mk.injEq, true_and] at ran
    rcases ran with ⟨_, _, rfl⟩
    exact strike_effect rfl

theorem enqueueStrikeWork_effect {key : String} {event : StrikeCompletedReceiveEvent}
    {now : Int} {before after : Db}
    (ran : enqueueStrikeWork key event now before = .ok ((), after)) :
    Effect .strike before after := by
  unfold enqueueStrikeWork at ran
  split at ran
  · simp only [bind_eq_ok, pure_eq_ok, Prod.mk.injEq, true_and] at ran
    rcases ran with ⟨_, _, rfl⟩
    exact .refl _
  · simp only [bind_eq_ok, pure_eq_ok, Prod.mk.injEq, true_and] at ran
    rcases ran with ⟨_, _, _, _, rfl⟩
    exact strike_effect rfl

theorem recordStrikeScan_effect {id : Uuid} {offset attempts : Nat} {delay now : Int}
    {before after : Db}
    (ran : recordStrikeScan id offset attempts delay now before = .ok ((), after)) :
    Effect .strike before after := by
  simp only [recordStrikeScan, bind_eq_ok, pure_eq_ok, Prod.mk.injEq, true_and] at ran
  rcases ran with ⟨_, _, rfl⟩
  exact strike_effect rfl

/-- Whatever a call commits is a few quiet changes and at most one booking. -/
theorem body_effect [SerdeJson] {call : LedgerCall} {now : Int} {before after : Db}
    {response : LedgerResponse} (ran : call.body now before = .ok (response, after)) :
    Effect call.scope before after := by
  cases call
  all_goals simp only [LedgerCall.body, transact_eq_ok, readOnly_eq_ok] at ran
  case recordPayment payment =>
    rcases ran with ⟨outcome, recorded, _⟩
    rcases (recordPayment_cases recorded).2.2 with ⟨_, rfl, _⟩ | ⟨_, _, settles⟩
    · exact .refl _
    · exact .booked .refl (.settles settles)
  case registerXmrCreditIntent intent =>
    rcases ran with ⟨_, registered, _⟩
    rcases registerXmrCreditIntent_cases registered with ⟨rfl, _⟩ | registers
    · exact .refl _
    · exact .single (.registers registers)
  case recordXmrReceipt intentId observation =>
    rcases ran with ⟨outcome, recorded, _⟩
    exact recordXmrReceipt_effect recorded
  case holdXmrCreditIntent intentId =>
    rcases ran with ⟨_, held, _⟩
    exact .single (.holds (fun mismatch => by cases mismatch)
      (holdXmrCreditIntent_cases held))
  case markInterruptedFeedIntentsUnknown =>
    rcases ran with ⟨_, marked, _⟩
    exact markInterrupted_effect marked
  case beginFeedAttempt thresholdSats drawn =>
    rcases ran with ⟨_, begun, _⟩
    rcases beginFeedAttempt_cases begun with ⟨_, rfl⟩ | ⟨_, begins⟩
    · exact .refl _
    · exact .single (.begins begins)
  case confirmFeedAttempt id =>
    rcases ran with ⟨_, confirmed, _⟩
    exact .booked .refl (.debits (resolveAsFed_cases confirmed))
  case markFeedUnknown id error =>
    rcases ran with ⟨_, marked, _⟩
    have moves : Quiet .feeder before _ := .moves (.intro (.unconfirmed id (truncateError error))
      fun attempt => by rintro ⟨⟩)
    exact .quietly (.tail (.single moves) (.logs (markFeedUnknown_cases marked)))
  case reconcileUnknownAsFed id =>
    rcases ran with ⟨_, confirmed, _⟩
    exact .booked .refl (.debits (resolveAsFed_cases confirmed))
  case reconcileUnknownAsNotFed id =>
    rcases ran with ⟨_, reconciled, _⟩
    have moves : Quiet .feeder before _ := .moves (.intro (.notFed id now)
      fun attempt => by rintro ⟨⟩)
    exact .booked (.single moves) (.announces (reconcileNotFed_cases reconciled))
  case resolveFeedNotDispatched id retryAfterSeconds =>
    rcases ran with ⟨_, resolved, _⟩
    exact resolveNotDispatched_effect resolved
  case appendEvent event =>
    rcases ran with ⟨_, appended, _⟩
    cases appended
    exact .single (.logs (.intro event.announces_nothing event.carries_nothing))
  case recordStrikeReceiveRequest request =>
    rcases ran with ⟨_, recorded, _⟩
    exact recordStrikeReceiveRequest_effect recorded
  case enqueueStrikeEvent event =>
    rcases ran with ⟨_, enqueued, _⟩
    exact enqueueStrikeWork_effect enqueued
  case enqueueStrikeWork key event =>
    rcases ran with ⟨_, enqueued, _⟩
    exact enqueueStrikeWork_effect enqueued
  case finishStrikeWork key =>
    rcases ran with ⟨_, finished, _⟩
    cases finished
    exact strike_effect rfl
  case retryStrikeWork key attempts =>
    rcases ran with ⟨_, retried, _⟩
    cases retried
    exact strike_effect rfl
  case recordStrikeScan id offset attempts delay =>
    rcases ran with ⟨_, recorded, _⟩
    exact recordStrikeScan_effect recorded
  all_goals
    rcases ran with ⟨_, _, _, rfl⟩
    exact .refl _

section Runs

variable [SerdeJson] {before after : Db} {label : LedgerLabel} {labels : List LedgerLabel}

theorem ledgerStep_effect (step : LedgerStep before label after) :
    Effect label.call.scope before after := by
  rcases ledgerStep_cases step with ⟨_, _, rfl⟩ | ⟨_, _, ran⟩
  · exact .refl _
  · exact body_effect ran

theorem ledgerRun_invariant {property : Db → Prop}
    (quietKeeps : ∀ {scope before after}, property before → Quiet scope before after → property after)
    (bookingKeeps : ∀ {scope before after}, property before → Booking scope before after →
      property after)
    (run : LedgerRun before labels after) (holds : property before) : property after :=
  run.invariant (fun holds step =>
    (ledgerStep_effect step).invariant quietKeeps bookingKeeps holds) holds

/-- A reflexive and transitive relation that every change respects relates the
ends of every run. -/
theorem ledgerRun_relates {relation : Db → Db → Prop} (reflexive : ∀ db, relation db db)
    (transitive : ∀ {first second third}, relation first second → relation second third →
      relation first third)
    (quietRelates : ∀ {scope before after}, Quiet scope before after → relation before after)
    (bookingRelates : ∀ {scope before after}, Booking scope before after → relation before after)
    (run : LedgerRun before labels after) : relation before after :=
  run.relates reflexive transitive fun step =>
    (ledgerStep_effect step).relates reflexive transitive quietRelates bookingRelates

end Runs

end LightningGoats
