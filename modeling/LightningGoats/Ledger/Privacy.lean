import Mathlib.Logic.Equiv.Defs
import LightningGoats.Foundation.Renaming
import LightningGoats.Ledger.Intents

/-! # What the public ledger reveals about receipts

The identifiers that tie a receipt to a wallet are private: those of intents,
providers, accounts, addresses, networks and receipts. The ledger only ever
compares them, so renaming them renames the credit tables and changes nothing
else: not the outcomes, not the events, not the entries.
-/

namespace LightningGoats

open Outcome Relational

/-- An injective renaming of the private identifiers. -/
structure PrivateNames where
  intentId : Uuid → Uuid
  provider : String → String
  network : Equiv.Perm XmrNetwork
  accountScope : String → String
  receiveScope : String → String
  receiptKey : String → String
  intentId_injective : Function.Injective intentId
  provider_injective : Function.Injective provider
  accountScope_injective : Function.Injective accountScope
  receiveScope_injective : Function.Injective receiveScope
  receiptKey_injective : Function.Injective receiptKey

def XmrCreditIntent.rename (names : PrivateNames) (intent : XmrCreditIntent) :
    XmrCreditIntent :=
  { intent with
    id := names.intentId intent.id
    provider := names.provider intent.provider
    network := names.network intent.network
    accountScope := names.accountScope intent.accountScope
    receiveScope := names.receiveScope intent.receiveScope }

def XmrReceiptObservation.rename (names : PrivateNames) (observation : XmrReceiptObservation) :
    XmrReceiptObservation :=
  { observation with
    provider := names.provider observation.provider
    network := names.network observation.network
    accountScope := names.accountScope observation.accountScope
    receiveScope := names.receiveScope observation.receiveScope
    receiptKey := names.receiptKey observation.receiptKey }

structure XmrCreditIntent.PrivatelyValid (intent : XmrCreditIntent) : Prop where
  id : intent.id.isNil = false
  provider : validateSource intent.provider = .ok ()
  accountScope : validateExternalId intent.accountScope "account scope" 256 = .ok ()
  receiveScope : validateExternalId intent.receiveScope "receive scope" 256 = .ok ()

def XmrReceiptObservation.PrivatelyValid (observation : XmrReceiptObservation) : Prop :=
  validateExternalId observation.receiptKey "receipt key" 256 = .ok ()

/-- A call and the same call under other names, with values that are valid in both. -/
inductive RenamesCall (names : PrivateNames) : LedgerCall → LedgerCall → Prop
  | registerXmrCreditIntent {intent : XmrCreditIntent} (valid : intent.PrivatelyValid)
      (validRenamed : (intent.rename names).PrivatelyValid) :
      RenamesCall names (.registerXmrCreditIntent intent)
        (.registerXmrCreditIntent (intent.rename names))
  | recordXmrReceipt {intentId : Uuid} {observation : XmrReceiptObservation}
      (valid : observation.PrivatelyValid)
      (validRenamed : (observation.rename names).PrivatelyValid) :
      RenamesCall names (.recordXmrReceipt intentId observation)
        (.recordXmrReceipt (names.intentId intentId) (observation.rename names))
  | holdXmrCreditIntent (intentId : Uuid) :
      RenamesCall names (.holdXmrCreditIntent intentId)
        (.holdXmrCreditIntent (names.intentId intentId))
  | recordPayment (payment : SettledPayment) :
      RenamesCall names (.recordPayment payment) (.recordPayment payment)

namespace PrivateNames

variable (names : PrivateNames)

/-! ## Texts -/

open Classical in
/-- The identifier of an XMR valuation is renamed with its intent, every other is kept. -/
noncomputable def valuationId (id : String) : String :=
  if isXmr : ∃ intentId, xmrId intentId = id then xmrId (names.intentId isXmr.choose) else id

@[simp] theorem valuationId_xmrId (intentId : Uuid) :
    names.valuationId (xmrId intentId) = xmrId (names.intentId intentId) := by
  have isXmr : ∃ other, xmrId other = xmrId intentId := ⟨intentId, rfl⟩
  rw [valuationId, dif_pos isXmr, xmrId_inj.mp isXmr.choose_spec]

@[simp] theorem valuationId_btcId (settlementId : Nat) :
    names.valuationId (btcId settlementId) = btcId settlementId := by
  rw [valuationId, dif_neg]
  rintro ⟨intentId, same⟩
  exact xmrId_ne_btcId intentId settlementId same

theorem valuationId_of_other {id : String} (notXmr : ¬ ∃ intentId, xmrId intentId = id) :
    names.valuationId id = id :=
  dif_neg notXmr

theorem valuationId_injective : Function.Injective names.valuationId := by
  intro left right same
  by_cases isLeft : ∃ intentId, xmrId intentId = left
  · rcases isLeft with ⟨leftId, rfl⟩
    by_cases isRight : ∃ intentId, xmrId intentId = right
    · rcases isRight with ⟨rightId, rfl⟩
      rw [valuationId_xmrId, valuationId_xmrId, xmrId_inj] at same
      rw [names.intentId_injective same]
    · rw [valuationId_xmrId, names.valuationId_of_other isRight] at same
      exact absurd ⟨_, same⟩ isRight
  · rw [names.valuationId_of_other isLeft] at same
    by_cases isRight : ∃ intentId, xmrId intentId = right
    · rcases isRight with ⟨rightId, rfl⟩
      rw [valuationId_xmrId] at same
      exact absurd ⟨_, same.symm⟩ isLeft
    · rwa [names.valuationId_of_other isRight] at same

/-- The name of a network is renamed with it, every other text is kept. -/
def networkName (text : String) : String :=
  match XmrNetwork.ofStr text with
  | some network => (names.network network).asStr
  | none => text

@[simp] theorem networkName_asStr (network : XmrNetwork) :
    names.networkName network.asStr = (names.network network).asStr := by
  simp [networkName]

theorem networkName_injective : Function.Injective names.networkName := by
  have named : ∀ text network, XmrNetwork.ofStr text = some network → text = network.asStr := by
    intro text network
    fun_cases XmrNetwork.ofStr text
    all_goals
      intro read
      cases read
      try rfl
  have unnamed : ∀ network : XmrNetwork, XmrNetwork.ofStr network.asStr ≠ none := by
    intro network
    rw [XmrNetwork.ofStr_asStr]
    exact Option.some_ne_none network
  intro left right same
  cases isLeft : XmrNetwork.ofStr left with
  | some leftNetwork =>
      cases isRight : XmrNetwork.ofStr right with
      | some rightNetwork =>
          simp only [networkName, isLeft, isRight] at same
          have networks := names.network.injective (XmrNetwork.asStr_injective same)
          rw [named left _ isLeft, named right _ isRight, networks]
      | none =>
          simp only [networkName, isLeft, isRight] at same
          exact absurd (same ▸ isRight) (unnamed _)
  | none =>
      cases isRight : XmrNetwork.ofStr right with
      | some rightNetwork =>
          simp only [networkName, isLeft, isRight] at same
          exact absurd (same ▸ isLeft) (unnamed _)
      | none => simpa only [networkName, isLeft, isRight] using same

open Classical in
noncomputable def receiptKeyAt (valuationId receiptKey : String) : String :=
  if ∃ intentId, xmrId intentId = valuationId then names.receiptKey receiptKey else receiptKey

@[simp] theorem receiptKeyAt_xmrId (intentId : Uuid) (receiptKey : String) :
    names.receiptKeyAt (xmrId intentId) receiptKey = names.receiptKey receiptKey :=
  if_pos ⟨intentId, rfl⟩

@[simp] theorem receiptKeyAt_btcId (settlementId : Nat) (receiptKey : String) :
    names.receiptKeyAt (btcId settlementId) receiptKey = receiptKey := by
  rw [receiptKeyAt, if_neg]
  rintro ⟨intentId, same⟩
  exact xmrId_ne_btcId intentId settlementId same

theorem receiptKeyAt_inj (valuationId : String) {left right : String} :
    names.receiptKeyAt valuationId left = names.receiptKeyAt valuationId right ↔
      left = right := by
  unfold receiptKeyAt
  split
  · exact names.receiptKey_injective.eq_iff
  · exact Iff.rfl

/-! ## Rows -/

noncomputable def valuation : RowRenaming Valuation.Clash where
  apply row :=
    match row.asset with
    | .btc => { row with id := names.valuationId row.id }
    | .xmr => { row with
        id := names.valuationId row.id
        network := names.networkName row.network
        provider := names.provider row.provider
        accountScope := names.accountScope row.accountScope
        receiveScope := names.receiveScope row.receiveScope }
  clashes left right := by
    rcases left with ⟨_, leftAsset, _⟩
    rcases right with ⟨_, rightAsset, _⟩
    cases leftAsset <;> cases rightAsset <;>
      simp [Valuation.Clash, EitherClash, SameKey, names.valuationId_injective.eq_iff,
        names.networkName_injective.eq_iff, names.provider_injective.eq_iff,
        names.accountScope_injective.eq_iff, names.receiveScope_injective.eq_iff]

noncomputable def allocation : RowRenaming AllocationRow.Clash where
  apply row := { row with valuationId := names.valuationId row.valuationId }
  clashes left right := by
    simp [AllocationRow.Clash, SameKey, names.valuationId_injective.eq_iff]

noncomputable def receipt : RowRenaming AssetReceipt.Clash where
  apply row := { row with
    valuationId := names.valuationId row.valuationId
    receiptKey := names.receiptKeyAt row.valuationId row.receiptKey }
  clashes left right := by
    have keys : (names.valuationId left.valuationId = names.valuationId right.valuationId ∧
        names.receiptKeyAt left.valuationId left.receiptKey =
          names.receiptKeyAt right.valuationId right.receiptKey) ↔
        left.valuationId = right.valuationId ∧ left.receiptKey = right.receiptKey := by
      rw [names.valuationId_injective.eq_iff]
      refine and_congr_right fun same => ?_
      rw [same, names.receiptKeyAt_inj]
    simp [AssetReceipt.Clash, EitherClash, SameKey, keys]

noncomputable def conflict : RowRenaming CreditConflict.Clash where
  apply row := { row with
    valuationId := names.valuationId row.valuationId
    receiptKey := names.receiptKeyAt row.valuationId row.receiptKey }
  clashes left right := by
    rcases left with ⟨leftId, leftKey, leftAmount, leftSeen, leftUnlocked, leftReason⟩
    rcases right with ⟨rightId, rightKey, rightAmount, rightSeen, rightUnlocked, rightReason⟩
    simp only [CreditConflict.Clash, SameKey, Option.isSome_some, Option.some.injEq,
      CreditConflict.mk.injEq, true_and, names.valuationId_injective.eq_iff]
    refine and_congr_right fun same => ?_
    rw [same, names.receiptKeyAt_inj]

/-- The database under other names. Settlements, entries, events and grants stay. -/
noncomputable def rename (db : Db) : Db :=
  { db with
    creditValuations := db.creditValuations.rename names.valuation
    creditAllocations := db.creditAllocations.rename names.allocation
    assetReceipts := db.assetReceipts.rename names.receipt
    creditConflicts := db.creditConflicts.rename names.conflict }

@[simp] theorem rename_fresh : names.rename Db.fresh = Db.fresh := rfl

noncomputable def committed {α : Type} (outcome : α × Db) : α × Db :=
  (outcome.1, names.rename outcome.2)

end PrivateNames

/-! ## Insertions and updates -/

theorem insertRow_rename {Row : Type} {clash : Row → Row → Prop} [DecidableRel clash]
    {name : String} {valid : Row → Prop} [DecidablePred valid] {table : Table clash} {row : Row}
    (relabelling : RowRenaming clash) (validRenamed : valid (relabelling.apply row) ↔ valid row) :
    insertRow name valid (table.rename relabelling) (relabelling.apply row) =
      (insertRow name valid table row).map
        fun inserted => (inserted.1.rename relabelling, inserted.2) := by
  unfold insertRow
  by_cases isValid : valid row
  · rw [if_pos isValid, if_pos (validRenamed.mpr isValid)]
    by_cases fresh : table.Fresh row
    · rw [dif_pos fresh, dif_pos (Table.fresh_rename.mpr fresh), Except.map,
        Table.rename_insert fresh, Table.nextRowid_rename]
    · rw [dif_neg fresh, dif_neg fun other => fresh (Table.fresh_rename.mp other), Except.map]
  · rw [if_neg isValid, if_neg fun other => isValid (validRenamed.mp other), Except.map]

section Operations

variable {names : PrivateNames} {db : Db}

@[simp] theorem valuation_apply_id (row : Valuation) :
    (names.valuation.apply row).id = names.valuationId row.id := by
  rcases row with ⟨_, asset, _⟩
  cases asset <;> rfl

@[simp] theorem valuation_apply_asset (row : Valuation) :
    (names.valuation.apply row).asset = row.asset := by
  rcases row with ⟨_, asset, _⟩
  cases asset <;> rfl

@[simp] theorem receipt_apply_valuationId (row : AssetReceipt) :
    (names.receipt.apply row).valuationId = names.valuationId row.valuationId := rfl

@[simp] theorem receipt_apply_receiptKey (row : AssetReceipt) :
    (names.receipt.apply row).receiptKey =
      names.receiptKeyAt row.valuationId row.receiptKey := rfl

theorem valuation_apply_valid (row : Valuation) :
    (names.valuation.apply row).Valid ↔ row.Valid := by
  rcases row with ⟨_, asset, _⟩
  cases asset <;> exact Iff.rfl

theorem valuation_apply_injective : Function.Injective names.valuation.apply := by
  intro left right same
  rcases left with ⟨_, leftAsset, _⟩
  rcases right with ⟨_, rightAsset, _⟩
  cases leftAsset <;> cases rightAsset <;>
    simp_all [PrivateNames.valuation, names.valuationId_injective.eq_iff,
      names.networkName_injective.eq_iff, names.provider_injective.eq_iff,
      names.accountScope_injective.eq_iff, names.receiveScope_injective.eq_iff]

theorem Valuation.insert_rename (row : Valuation) :
    (names.valuation.apply row).insert (names.rename db) = (row.insert db).map names.rename := by
  have empty : (⟨(names.valuation.apply row).id, 0, 0, none⟩ : AllocationRow) =
      names.allocation.apply ⟨row.id, 0, 0, none⟩ := by
    rw [valuation_apply_id]
    rfl
  unfold Valuation.insert
  rw [empty]
  refine bind_map (insertRow_rename names.valuation (valuation_apply_valid row)) ?_
  intro valuations _
  refine bind_map (insertRow_rename names.allocation Iff.rfl) ?_
  intro allocations _
  rfl

theorem allocationInTx_rename (id : String) :
    allocationInTx (names.valuationId id) (names.rename db) = allocationInTx id db := by
  have found : ((names.rename db).creditAllocations.rows.find? fun row =>
      row.valuationId = names.valuationId id) =
      (db.creditAllocations.rows.find? fun row => row.valuationId = id).map
        names.allocation.apply := by
    refine Table.find?_rename fun row => ?_
    simp [PrivateNames.allocation, names.valuationId_injective.eq_iff]
  unfold allocationInTx
  rw [found]
  cases db.creditAllocations.rows.find? fun row => row.valuationId = id with
  | none => rfl
  | some row => rfl

theorem holdAllocation_rename (id : String) (reason : CreditHold) :
    holdAllocation (names.valuationId id) reason (names.rename db) =
      (names.rename (holdAllocation id reason db).1, (holdAllocation id reason db).2) := by
  have commutes : ∀ row, names.allocation.apply (AllocationRow.hold id reason row) =
      AllocationRow.hold (names.valuationId id) reason (names.allocation.apply row) := by
    intro row
    simp only [AllocationRow.hold, PrivateNames.allocation, names.valuationId_injective.eq_iff]
    split <;> rfl
  have affected : ((names.rename db).creditAllocations.rows.filter fun row =>
      row.valuationId = names.valuationId id).length =
      (db.creditAllocations.rows.filter fun row => row.valuationId = id).length := by
    simp [PrivateNames.rename, PrivateNames.allocation, List.filter_map, Function.comp_def,
      names.valuationId_injective.eq_iff]
  refine Prod.ext ?_ affected
  simp only [holdAllocation, PrivateNames.rename]
  rw [Table.rename_update commutes]

theorem setAllocation_rename (id : String) (eligible credited : Int) :
    setAllocation (names.valuationId id) eligible credited (names.rename db) =
      (setAllocation id eligible credited db).map names.rename := by
  have commutes : ∀ row,
      names.allocation.apply (AllocationRow.setWatermarks id eligible credited row) =
        AllocationRow.setWatermarks (names.valuationId id) eligible credited
          (names.allocation.apply row) := by
    intro row
    simp only [AllocationRow.setWatermarks, PrivateNames.allocation,
      names.valuationId_injective.eq_iff]
    split <;> rfl
  have rows : (names.rename db).creditAllocations.rows =
      db.creditAllocations.rows.map names.allocation.apply := Table.rows_rename
  have ids : ∀ row, (names.allocation.apply row).valuationId = names.valuationId id ↔
      row.valuationId = id := fun row => names.valuationId_injective.eq_iff
  unfold setAllocation
  simp only [rows, List.forall_mem_map, ids]
  refine bind_map_same fun _ _ => bind_map_same fun _ _ => ?_
  simp only [PrivateNames.rename, pure, Except.pure, Except.map]
  rw [Table.rename_update commutes]

theorem findReceipt_rename (intentId : Uuid) (receiptKey : String) :
    findReceipt (xmrId (names.intentId intentId)) (names.receiptKey receiptKey)
        (names.rename db) =
      (findReceipt (xmrId intentId) receiptKey db).map
        fun entry => (entry.1, names.receipt.apply entry.2) := by
  have selects : ∀ row : AssetReceipt,
      ((names.receipt.apply row).valuationId = xmrId (names.intentId intentId) ∧
        (names.receipt.apply row).receiptKey = names.receiptKey receiptKey) ↔
      row.valuationId = xmrId intentId ∧ row.receiptKey = receiptKey := by
    intro row
    rw [← names.valuationId_xmrId, receipt_apply_valuationId, receipt_apply_receiptKey,
      names.valuationId_injective.eq_iff]
    refine and_congr_right fun same => ?_
    rw [same, names.receiptKeyAt_xmrId, names.receiptKey_injective.eq_iff]
  unfold findReceipt
  rw [PrivateNames.rename, Table.entries_rename, List.find?_map]
  simp only [Function.comp_def, ← Bool.decide_and, selects]

theorem binds_rename {observation : XmrReceiptObservation} {row : Valuation}
    (isXmr : row.asset = .xmr) :
    (observation.rename names).Binds (names.valuation.apply row) ↔ observation.Binds row := by
  rcases row with ⟨_, asset, _⟩
  cases isXmr
  simp only [XmrReceiptObservation.Binds, XmrReceiptObservation.rename, PrivateNames.valuation]
  rw [← names.networkName_asStr, names.provider_injective.eq_iff,
    names.networkName_injective.eq_iff, names.accountScope_injective.eq_iff,
    names.receiveScope_injective.eq_iff]

theorem policyVersion_rename (row : Valuation) :
    (names.valuation.apply row).policyVersion = row.policyVersion := by
  rcases row with ⟨_, asset, _⟩
  cases asset <;> rfl

theorem boundValuation_rename (intentId : Uuid) (observation : XmrReceiptObservation) :
    boundValuation (xmrId (names.intentId intentId)) (observation.rename names)
        (names.rename db) =
      (boundValuation (xmrId intentId) observation db).map names.valuation.apply := by
  have found : ((names.rename db).creditValuations.rows.find? fun row =>
      row.id = xmrId (names.intentId intentId) && row.asset = .xmr) =
      (db.creditValuations.rows.find? fun row =>
        row.id = xmrId intentId && row.asset = .xmr).map names.valuation.apply := by
    refine Table.find?_rename fun row => ?_
    rw [← names.valuationId_xmrId, valuation_apply_id, valuation_apply_asset]
    simp only [names.valuationId_injective.eq_iff]
  unfold boundValuation
  rw [found]
  cases search : db.creditValuations.rows.find? fun row =>
      row.id = xmrId intentId && row.asset = .xmr with
  | none => rfl
  | some row =>
      have isXmr : row.asset = .xmr := by
        have selected := List.find?_some search
        simp only [Bool.and_eq_true, decide_eq_true_eq] at selected
        exact selected.2
      simp only [Option.map_some, require, policyVersion_rename, bind, Except.bind, ensure,
        binds_rename isXmr]
      split
      · rfl
      · split <;> rfl

theorem holdObservation_rename (intentId : Uuid) (observation : XmrReceiptObservation)
    (reason : CreditHold) :
    holdObservation (xmrId (names.intentId intentId)) (observation.rename names) reason
        (names.rename db) =
      (holdObservation (xmrId intentId) observation reason db).map names.rename := by
  refine bind_map_same fun amount _ => ?_
  let row : CreditConflict := ⟨xmrId intentId, observation.receiptKey, amount,
    observation.firstSeenAt, observation.unlocked, reason⟩
  have renamed : (⟨xmrId (names.intentId intentId), names.receiptKey observation.receiptKey,
      amount, observation.firstSeenAt, observation.unlocked, reason⟩ : CreditConflict) =
      names.conflict.apply row := by
    simp [row, PrivateNames.conflict]
  let conflicts := if fresh : db.creditConflicts.Fresh row then
    db.creditConflicts.insert row fresh else db.creditConflicts
  have ignored := (Table.rename_insert_or_ignore row :
    conflicts.rename names.conflict = _)
  have held : holdAllocation (names.valuationId (xmrId intentId)) reason
      (names.rename { db with creditConflicts := conflicts }) = _ :=
    holdAllocation_rename (xmrId intentId) reason
  rw [names.valuationId_xmrId, PrivateNames.rename, ignored, ← renamed] at held
  exact congrArg (fun outcome => Except.ok outcome.1) held

theorem reportHeld_rename (intentId : Uuid) (observation : XmrReceiptObservation)
    (reason : CreditHold) :
    reportHeld (xmrId (names.intentId intentId)) (observation.rename names) reason
        (names.rename db) =
      (reportHeld (xmrId intentId) observation reason db).map names.committed :=
  bind_map (holdObservation_rename intentId observation reason) fun _ _ => rfl

theorem isTimely_rename (row : Valuation) (observation : XmrReceiptObservation) :
    isTimely (names.valuation.apply row) (observation.rename names) =
      isTimely row observation := by
  rcases row with ⟨_, asset, _⟩
  cases asset <;> rfl

theorem storeReceipt_rename {intentId : Uuid} {amount : Int}
    {observation : XmrReceiptObservation} {timely : Bool} {existing : Option (Nat × AssetReceipt)}
    (valid : observation.PrivatelyValid)
    (validRenamed : (observation.rename names).PrivatelyValid) :
    storeReceipt (xmrId (names.intentId intentId)) amount (observation.rename names) timely
        (existing.map fun entry => (entry.1, names.receipt.apply entry.2)) (names.rename db) =
      (storeReceipt (xmrId intentId) amount observation timely existing db).map
        names.committed := by
  cases existing with
  | some entry => rfl
  | none =>
      let row : AssetReceipt := {
        valuationId := xmrId intentId
        receiptKey := observation.receiptKey
        amountAtomic := amount
        firstSeenAt := some observation.firstSeenAt
        unlocked := observation.unlocked
        eligible := timely && !observation.doubleSpendSeen
        btcSettlementId := none }
      have renamed : ({ row with
          valuationId := xmrId (names.intentId intentId)
          receiptKey := names.receiptKey observation.receiptKey } : AssetReceipt) =
          names.receipt.apply row := by
        simp [row, PrivateNames.receipt]
      have rowValid : (names.receipt.apply row).Valid ↔ row.Valid := by
        rw [← renamed]
        exact and_congr_left fun _ =>
          iff_of_true (fitsColumn_externalId validRenamed) (fitsColumn_externalId valid)
      have inserted : insertRow "asset_receipts" AssetReceipt.Valid
          (db.assetReceipts.rename names.receipt) (names.receipt.apply row) = _ :=
        insertRow_rename names.receipt rowValid
      rw [← renamed] at inserted
      exact bind_map inserted fun _ _ => rfl

theorem unlockReceipt_rename (receiptId : Nat) :
    unlockReceipt receiptId (names.rename db) = names.rename (unlockReceipt receiptId db) := by
  have commutes : ∀ rowid row, names.receipt.apply (AssetReceipt.unlock receiptId rowid row) =
      AssetReceipt.unlock receiptId rowid (names.receipt.apply row) := by
    intro rowid row
    unfold AssetReceipt.unlock
    split <;> rfl
  simp only [unlockReceipt, PrivateNames.rename]
  rw [Table.rename_updateEntries commutes]

theorem grantsOf_rename (id : String) :
    grantsOf (names.valuationId id) (names.rename db) =
      (grantsOf id db).map fun granted => (granted.1, names.receipt.apply granted.2) := by
  unfold grantsOf
  rw [List.map_filterMap]
  refine List.filterMap_congr fun grant _ => ?_
  have stored : (names.rename db).assetReceipts.get? grant.receiptId =
      (db.assetReceipts.get? grant.receiptId).map names.receipt.apply := Table.get?_rename
  rw [stored]
  cases db.assetReceipts.get? grant.receiptId with
  | none => rfl
  | some receipt =>
      simp only [Option.map_some, Option.bind_some, receipt_apply_valuationId,
        names.valuationId_injective.eq_iff]
      split <;> rfl

theorem announceGrant_rename (row : Valuation) (receiptId deltaSats feedCreditSats : Nat) :
    announceGrant (names.valuation.apply row) receiptId deltaSats feedCreditSats
        (names.rename db) =
      (announceGrant row receiptId deltaSats feedCreditSats db).map names.committed := by
  rcases row with ⟨_, asset, _⟩
  unfold announceGrant
  by_cases positive : 0 < deltaSats
  · rw [if_pos positive, if_pos positive]
    refine bind_map_same fun delta _ => ?_
    cases asset <;> exact bind_map_same fun inserted _ => rfl
  · rw [if_neg positive, if_neg positive]
    rfl

theorem commitGrant_rename (id : String) (row : Valuation) (receiptId : Nat)
    (update : CreditUpdate) (feedCreditSats : Nat) :
    commitGrant (names.valuationId id) (names.valuation.apply row) receiptId update
        feedCreditSats (names.rename db) =
      (commitGrant id row receiptId update feedCreditSats db).map names.rename := by
  unfold commitGrant
  refine bind_map (announceGrant_rename row receiptId update.deltaSats feedCreditSats) ?_
  intro announced _
  refine bind_map_same fun delta _ => bind_map_same fun atomic _ => bind_map_same fun sats _ => ?_
  refine bind_map_same fun grants _ => ?_
  exact @setAllocation_rename names { announced.2 with creditGrants := grants.1 } id atomic sats

theorem grantReceipt_rename (intentId : Uuid) (row : Valuation) (allocation : CreditAllocation)
    (observation : XmrReceiptObservation) (receiptId : Nat) :
    grantReceipt (xmrId (names.intentId intentId)) (names.valuation.apply row) allocation
        (observation.rename names) receiptId (names.rename db) =
      (grantReceipt (xmrId intentId) row allocation observation receiptId db).map
        names.committed := by
  have granted := @grantsOf_rename names db (xmrId intentId)
  rw [names.valuationId_xmrId] at granted
  have amounts : ((grantsOf (xmrId (names.intentId intentId)) (names.rename db)).map
      fun granted => granted.2.amountAtomic) =
      (grantsOf (xmrId intentId) db).map fun granted => granted.2.amountAtomic := by
    rw [granted, List.map_map]
    rfl
  have deltas : ((grantsOf (xmrId (names.intentId intentId)) (names.rename db)).map
      fun granted => granted.1.deltaSats) =
      (grantsOf (xmrId intentId) db).map fun granted => granted.1.deltaSats := by
    rw [granted, List.map_map]
    rfl
  have terms : (names.valuation.apply row).expectedAtomic = row.expectedAtomic ∧
      (names.valuation.apply row).targetSats = row.targetSats ∧
      (names.valuation.apply row).maxCreditSats = row.maxCreditSats := by
    rcases row with ⟨_, asset, _⟩
    cases asset <;> exact ⟨rfl, rfl, rfl⟩
  unfold grantReceipt
  rw [amounts, deltas, terms.1, terms.2.1, terms.2.2]
  refine bind_map_same fun expected _ => bind_map_same fun target _ => ?_
  refine bind_map_same fun terms _ => bind_map_same fun atomic _ => ?_
  refine bind_map_same fun sats _ => bind_map_same fun agree _ => ?_
  refine ite_map (reportHeld_rename intentId observation .allocationMismatch) ?_
  refine ite_map rfl ?_
  have sameAmount : (observation.rename names).amount = observation.amount := rfl
  rw [sameAmount]
  cases nextUpdate terms allocation observation.amount.atomicUnits row.maxCreditSats with
  | none => exact reportHeld_rename intentId observation .creditLimit
  | some update =>
      refine bind_map_same fun before _ => ?_
      refine ite_map (reportHeld_rename intentId observation .creditLimit) ?_
      have committed := @commitGrant_rename names db (xmrId intentId) row receiptId update
        (before + update.deltaSats)
      rw [names.valuationId_xmrId] at committed
      exact bind_map committed fun _ _ => rfl

theorem settleReceipt_rename {intentId : Uuid} {row : Valuation}
    {allocation : CreditAllocation} {amount : Int} {observation : XmrReceiptObservation}
    {existing : Option (Nat × AssetReceipt)} (valid : observation.PrivatelyValid)
    (validRenamed : (observation.rename names).PrivatelyValid) :
    settleReceipt (xmrId (names.intentId intentId)) (names.valuation.apply row) allocation amount
        (observation.rename names)
        (existing.map fun entry => (entry.1, names.receipt.apply entry.2)) (names.rename db) =
      (settleReceipt (xmrId intentId) row allocation amount observation existing db).map
        names.committed := by
  unfold settleReceipt
  rw [isTimely_rename]
  refine bind_map_same fun timely _ => ?_
  refine bind_map (storeReceipt_rename valid validRenamed) fun stored _ => ?_
  have unlocked : (if (observation.rename names).unlocked = true
      then unlockReceipt stored.1 (names.rename stored.2) else names.rename stored.2) =
      names.rename (if observation.unlocked = true then unlockReceipt stored.1 stored.2
        else stored.2) := by
    rw [unlockReceipt_rename]
    exact (apply_ite names.rename (observation.unlocked = true) _ _).symm
  simp only [PrivateNames.committed]
  rw [unlocked]
  refine ite_map (reportHeld_rename intentId observation .doubleSpend) ?_
  refine ite_map rfl (ite_map rfl (ite_map rfl ?_))
  exact grantReceipt_rename intentId row allocation observation stored.1

/-! ## Calls -/

theorem recordXmrReceipt_rename {intentId : Uuid} {observation : XmrReceiptObservation}
    (valid : observation.PrivatelyValid)
    (validRenamed : (observation.rename names).PrivatelyValid) :
    recordXmrReceipt (names.intentId intentId) (observation.rename names) (names.rename db) =
      (recordXmrReceipt intentId observation db).map names.committed := by
  have validated : validateObservation (observation.rename names) =
      validateObservation observation := by
    unfold validateObservation
    rw [validRenamed, valid]
    rfl
  have allocated := @allocationInTx_rename names db (xmrId intentId)
  rw [names.valuationId_xmrId] at allocated
  simp only [recordXmrReceipt, validated, allocated]
  refine bind_map_same fun amount _ => ?_
  refine bind_map (boundValuation_rename intentId observation) fun row _ => ?_
  refine bind_map_same fun allocation _ => ?_
  have found := @findReceipt_rename names db intentId observation.receiptKey
  have conflicts : ((findReceipt (xmrId (names.intentId intentId))
      (observation.rename names).receiptKey (names.rename db)).bind fun entry =>
        conflictReason entry.2 amount (observation.rename names)) =
      (findReceipt (xmrId intentId) observation.receiptKey db).bind fun entry =>
        conflictReason entry.2 amount observation := by
    rw [XmrReceiptObservation.rename, found, Option.bind_map]
    rfl
  simp only [conflicts]
  cases (findReceipt (xmrId intentId) observation.receiptKey db).bind fun entry =>
      conflictReason entry.2 amount observation with
  | some reason => exact reportHeld_rename intentId observation reason
  | none =>
      have settled := @settleReceipt_rename names db intentId row allocation amount observation
        (findReceipt (xmrId intentId) observation.receiptKey db) valid validRenamed
      rw [← found] at settled
      exact settled

theorem holdXmrCreditIntent_rename (intentId : Uuid) :
    holdXmrCreditIntent (names.intentId intentId) (names.rename db) =
      (holdXmrCreditIntent intentId db).map names.committed := by
  have held := @holdAllocation_rename names db (xmrId intentId) .providerInconsistency
  rw [names.valuationId_xmrId] at held
  simp only [holdXmrCreditIntent, held]
  exact bind_map_same fun _ _ => rfl

theorem XmrCreditIntent.valuation_rename (intent : XmrCreditIntent)
    (expected target limit : Int) :
    (intent.rename names).valuation expected target limit =
      names.valuation.apply (intent.valuation expected target limit) := by
  simp [XmrCreditIntent.valuation, XmrCreditIntent.rename, PrivateNames.valuation]

theorem registerXmrCreditIntent_rename {intent : XmrCreditIntent} (valid : intent.PrivatelyValid)
    (validRenamed : (intent.rename names).PrivatelyValid) :
    registerXmrCreditIntent (intent.rename names) (names.rename db) =
      (registerXmrCreditIntent intent db).map names.committed := by
  refine bind_map ?_ fun _ _ => rfl
  unfold registerXmrIntentInTransaction
  rw [ensure_of validRenamed.id, ensure_of valid.id, validRenamed.provider, valid.provider,
    validRenamed.accountScope, valid.accountScope, validRenamed.receiveScope, valid.receiveScope]
  refine bind_map_same fun _ _ => bind_map_same fun _ _ => ?_
  refine bind_map_same fun _ _ => bind_map_same fun _ _ => ?_
  refine bind_map_same fun _ _ => bind_map_same fun _ _ => ?_
  refine bind_map_same fun _ _ => bind_map_same fun expected _ => ?_
  refine bind_map_same fun target _ => bind_map_same fun limit _ => ?_
  simp only [intent.valuation_rename expected target limit]
  have found : ((names.rename db).creditValuations.rows.find? fun row =>
      row.id = (names.valuation.apply (intent.valuation expected target limit)).id) =
      (db.creditValuations.rows.find? fun row =>
        row.id = (intent.valuation expected target limit).id).map names.valuation.apply := by
    refine Table.find?_rename fun row => ?_
    rw [valuation_apply_id, valuation_apply_id]
    simp only [names.valuationId_injective.eq_iff]
  rw [found]
  cases db.creditValuations.rows.find? fun row =>
      row.id = (intent.valuation expected target limit).id with
  | none => exact Valuation.insert_rename (intent.valuation expected target limit)
  | some existing =>
      simp only [Option.map_some, valuation_apply_injective.eq_iff]
      exact bind_map_same fun _ _ => rfl

/-! ## Native settlements

They have identifiers of their own, which no renaming touches.
-/

theorem btcValuation_rename (settlementId : Nat) (payment : SettledPaymentRow) :
    names.valuation.apply (btcValuation settlementId payment) =
      btcValuation settlementId payment := by
  simp [PrivateNames.valuation, btcValuation]

theorem btcReceipt_rename (settlementId : Nat) (payment : SettledPaymentRow) (sats : Int) :
    names.receipt.apply (btcReceipt settlementId payment sats) =
      btcReceipt settlementId payment sats := by
  simp [PrivateNames.receipt, btcReceipt]

theorem recordNativeBtc_rename (settlementId ledgerId eventSeq : Nat) :
    recordNativeBtc settlementId ledgerId eventSeq (names.rename db) =
      (recordNativeBtc settlementId ledgerId eventSeq db).map names.rename := by
  unfold recordNativeBtc
  refine bind_map_same fun payment _ => bind_map_same fun _ _ => ?_
  refine bind_map_same fun amount _ => bind_map_same fun sats _ => ?_
  refine bind_map_same fun nothing _ => bind_map_same fun everything _ => ?_
  refine bind_map_same fun update _ => ?_
  have valued := @Valuation.insert_rename names db (btcValuation settlementId payment)
  rw [btcValuation_rename] at valued
  refine bind_map valued fun valued _ => ?_
  refine bind_map_same fun satsI64 _ => ?_
  have received : insertRow "asset_receipts" AssetReceipt.Valid
      (valued.assetReceipts.rename names.receipt)
      (names.receipt.apply (btcReceipt settlementId payment satsI64)) = _ :=
    insertRow_rename names.receipt (by rw [btcReceipt_rename])
  rw [btcReceipt_rename] at received
  refine bind_map received fun receipts _ => ?_
  refine bind_map_same fun delta _ => bind_map_same fun grants _ => ?_
  have raised := @setAllocation_rename names
    { valued with assetReceipts := receipts.1, creditGrants := grants.1 } (btcId settlementId)
    satsI64 satsI64
  rw [names.valuationId_btcId] at raised
  exact raised

/-- The provenance of a settlement is the same under other names, since native valuations
keep theirs. -/
theorem provenanceMatches_rename {settlementId : Nat} {payment : SettledPaymentRow}
    {receipt : Nat × AssetReceipt} {row : Valuation} {allocation : AllocationRow}
    {grant : CreditGrant} {entry : Nat × LedgerEntry}
    (native : row.asset = .btc → ∃ settlementId, row.id = btcId settlementId) :
    provenanceMatches settlementId payment (receipt.1, names.receipt.apply receipt.2)
        (names.valuation.apply row) (names.allocation.apply allocation) grant entry =
      provenanceMatches settlementId payment receipt row allocation grant entry := by
  rcases row with ⟨id, asset, network, provider, accountScope, receiveScope, others⟩
  rcases allocation with ⟨allocationId, eligibleAtomic, creditedSats, holdReason⟩
  cases asset with
  | xmr => simp [provenanceMatches, PrivateNames.valuation]
  | btc =>
      rcases native rfl with ⟨nativeId, isNative⟩
      change id = btcId nativeId at isNative
      subst isNative
      have sameId : ∀ other,
          btcId nativeId = names.valuationId other ↔ btcId nativeId = other := by
        intro other
        have same := names.valuationId_injective.eq_iff (a := btcId nativeId) (b := other)
        rwa [names.valuationId_btcId] at same
      have sameAllocation : names.valuationId allocationId = btcId nativeId ↔
          allocationId = btcId nativeId := by
        rw [eq_comm, sameId, eq_comm]
      by_cases bound : btcId nativeId = receipt.2.valuationId
      · have key : names.receiptKeyAt receipt.2.valuationId receipt.2.receiptKey =
            receipt.2.receiptKey := by
          rw [← bound, names.receiptKeyAt_btcId]
        cases holdReason <;>
          simp [provenanceMatches, PrivateNames.valuation, PrivateNames.receipt,
            PrivateNames.allocation, sameId, sameAllocation, key]
      · simp [provenanceMatches, PrivateNames.valuation, PrivateNames.receipt, sameId, bound]

theorem CreditTables.native_id (tables : CreditTables db) {row : Valuation}
    (member : row ∈ db.creditValuations.rows) (isBtc : row.asset = .btc) :
    ∃ settlementId, row.id = btcId settlementId := by
  rcases tables.native row member isBtc with ⟨settlementId, payment, _, rfl⟩
  exact ⟨settlementId, rfl⟩

theorem verifyNativeBtc_rename (tables : CreditTables db) (settlementId : Nat) :
    verifyNativeBtc settlementId (names.rename db) = verifyNativeBtc settlementId db := by
  have provenance : hasNativeProvenance settlementId (names.rename db) =
      hasNativeProvenance settlementId db := by
    unfold hasNativeProvenance
    simp only [PrivateNames.rename, Table.entries_rename, Table.rows_rename, List.any_map,
      Function.comp_def]
    refine congrArg (fun check => Option.any check _) (funext fun payment => ?_)
    refine congrArg (fun check => List.any _ check) (funext fun receipt => ?_)
    rw [Bool.eq_iff_iff, List.any_eq_true, List.any_eq_true]
    refine exists_congr fun row => and_congr_right fun member => ?_
    simp only [provenanceMatches_rename (tables.native_id member)]
  unfold verifyNativeBtc
  rw [provenance]

theorem settlePayment_rename (payment : SettledPayment) (amountMsat creditedI64 : Int)
    (creditedSats : Nat) :
    settlePayment payment amountMsat creditedI64 creditedSats (names.rename db) =
      (settlePayment payment amountMsat creditedI64 creditedSats db).map names.rename := by
  unfold settlePayment
  refine bind_map_same fun settlements _ => bind_map_same fun entries _ => ?_
  let booked := { db with settledPayments := settlements.1, ledgerEntries := entries.1 }
  have read : feedCreditInTransaction { names.rename db with
      settledPayments := settlements.1, ledgerEntries := entries.1 } =
      feedCreditInTransaction booked := feedCredit_congr rfl
  simp only [read]
  refine bind_map_same fun feedCreditSats _ => ?_
  exact @recordNativeBtc_rename names (appendEventInTransaction "payment_received"
    (payment.announcement creditedSats feedCreditSats) booked).1 settlements.2 entries.2 _

theorem recordPayment_rename [SerdeJson] (tables : CreditTables db) (payment : SettledPayment) :
    recordPayment payment (names.rename db) = (recordPayment payment db).map names.committed := by
  refine bind_map_same fun _ _ => bind_map_same fun amountMsat _ => ?_
  refine bind_map_same fun creditedI64 _ => ?_
  have sameSettlement : findSettlement payment.source payment.sourceId (names.rename db) =
    findSettlement payment.source payment.sourceId db := rfl
  rw [sameSettlement]
  cases findSettlement payment.source payment.sourceId db with
  | some existing =>
      refine ite_map ?_ rfl
      rw [verifyNativeBtc_rename tables]
      exact bind_map_same fun _ _ => rfl
  | none =>
      refine bind_map_same fun _ _ => ?_
      exact bind_map (settlePayment_rename payment amountMsat creditedI64 _) fun _ _ => rfl

end Operations

/-! ## Runs -/

section Runs

variable {names : PrivateNames} {db : Db}

theorem transact_rename {α : Type} {body renamed : Db → Except LedgerError (α × Db)}
    {respond : α → LedgerResponse}
    (same : renamed (names.rename db) = (body db).map names.committed) :
    transact renamed respond (names.rename db) =
      (transact body respond db).map names.committed :=
  bind_map same fun _ _ => rfl

variable [SerdeJson]

theorem body_rename {left right : LedgerCall} {leftNow rightNow : Int}
    (tables : CreditTables db) (renames : RenamesCall names left right) :
    right.body rightNow (names.rename db) = (left.body leftNow db).map names.committed := by
  cases renames with
  | registerXmrCreditIntent valid validRenamed =>
      simp only [LedgerCall.body]
      exact transact_rename (registerXmrCreditIntent_rename valid validRenamed)
  | recordXmrReceipt valid validRenamed =>
      exact transact_rename (recordXmrReceipt_rename valid validRenamed)
  | holdXmrCreditIntent intentId =>
      simp only [LedgerCall.body]
      exact transact_rename (holdXmrCreditIntent_rename intentId)
  | recordPayment payment =>
      exact transact_rename (recordPayment_rename tables payment)

/-- A call under other names has the same outcome, and leads to the database under them. -/
theorem execute_rename {left right : LedgerCall} {leftNow rightNow : Int}
    (tables : CreditTables db) (renames : RenamesCall names left right) :
    execute right rightNow (names.rename db) =
      ((execute left leftNow db).1, names.rename (execute left leftNow db).2) := by
  have bodies : right.body rightNow (names.rename db) =
      (left.body leftNow db).map names.committed := body_rename tables renames
  simp only [execute, bodies]
  cases left.body leftNow db with
  | error error => rfl
  | ok outcome => rfl

theorem ledgerRun_rename {before leftAfter rightAfter : Db} {left right : List LedgerLabel}
    (renamed : List.Forall₂ (fun first second => RenamesCall names first.call second.call)
      left right)
    (tables : CreditTables before) (leftRun : LedgerRun before left leftAfter)
    (rightRun : LedgerRun (names.rename before) right rightAfter) :
    left.map LedgerLabel.result = right.map LedgerLabel.result ∧
      rightAfter = names.rename leftAfter := by
  induction renamed generalizing before with
  | nil =>
      cases leftRun
      cases rightRun
      exact ⟨rfl, rfl⟩
  | @cons first second others renamedOthers renames _ induction =>
      rcases Execution.Run.cons_iff.mp leftRun with ⟨middle, leftStep, leftRest⟩
      rcases Execution.Run.cons_iff.mp rightRun with ⟨renamedMiddle, rightStep, rightRest⟩
      have executed : execute first.call first.now before = (first.result, middle) := leftStep
      have renamedExecuted : execute second.call second.now (names.rename before) =
          (second.result, renamedMiddle) := rightStep
      have sameExecution : (second.result, renamedMiddle) =
          ((execute first.call first.now before).1,
            names.rename (execute first.call first.now before).2) :=
        renamedExecuted.symm.trans (execute_rename tables renames)
      rw [executed, Prod.mk.injEq] at sameExecution
      rcases sameExecution with ⟨sameResult, rfl⟩
      have tablesKept := (ledgerStep_effect leftStep).invariant CreditTables.of_quiet
        CreditTables.of_booking tables
      have rest := induction tablesKept leftRest rightRest
      exact ⟨by rw [List.map_cons, List.map_cons, sameResult, rest.1], rest.2⟩

/-- Two runs that differ in the private identifiers of XMR receipts only have the same
outcomes, events and ledger. -/
theorem receipts_stay_private {leftDb rightDb : Db} {left right : List LedgerLabel}
    (leftRun : LedgerRun Db.fresh left leftDb) (rightRun : LedgerRun Db.fresh right rightDb)
    (renamed : List.Forall₂ (fun first second => RenamesCall names first.call second.call)
      left right) :
    left.map LedgerLabel.result = right.map LedgerLabel.result ∧
      leftDb.eventLog = rightDb.eventLog ∧ leftDb.ledgerEntries = rightDb.ledgerEntries ∧
      feedCreditSats leftDb = feedCreditSats rightDb := by
  rw [← names.rename_fresh] at rightRun
  rcases ledgerRun_rename renamed CreditTables.ofFresh leftRun rightRun with ⟨results, rfl⟩
  exact ⟨results, rfl, rfl, feedCredit_congr rfl⟩

end Runs

/-! ## An example

The same intent, receipt, hold and payment under other names.
-/

def exampleNames : PrivateNames where
  intentId id := ⟨id.value + 1⟩
  provider := ("x" ++ ·)
  network := Equiv.swap .mainnet .stagenet
  accountScope := ("x" ++ ·)
  receiveScope := ("y" ++ ·)
  receiptKey := ("z" ++ ·)
  intentId_injective left right same := by
    cases left
    cases right
    simpa using same
  provider_injective _ _ same := (String.append_right_inj _).mp same
  accountScope_injective _ _ same := (String.append_right_inj _).mp same
  receiveScope_injective _ _ same := (String.append_right_inj _).mp same
  receiptKey_injective _ _ same := (String.append_right_inj _).mp same

def exampleReceipt : XmrReceiptObservation :=
  exampleObservation "a" threePiconero

def privateCalls : List (LedgerCall × Int) :=
  [(.registerXmrCreditIntent exampleIntent, 11), (.recordXmrReceipt ⟨1⟩ exampleReceipt, 12),
    (.recordPayment examplePayment, 13), (.holdXmrCreditIntent ⟨1⟩, 14)]

def renamedCalls : List (LedgerCall × Int) :=
  [(.registerXmrCreditIntent (exampleIntent.rename exampleNames), 21),
    (.recordXmrReceipt ⟨2⟩ (exampleReceipt.rename exampleNames), 22),
    (.recordPayment examplePayment, 23), (.holdXmrCreditIntent ⟨2⟩, 24)]

theorem receipts_stay_private_example :
    let left := @labelsOf exampleJson privateCalls Db.fresh
    let right := @labelsOf exampleJson renamedCalls Db.fresh
    left.map LedgerLabel.result = right.map LedgerLabel.result ∧
      (@replay exampleJson privateCalls Db.fresh).eventLog =
        (@replay exampleJson renamedCalls Db.fresh).eventLog ∧
      (@replay exampleJson privateCalls Db.fresh).ledgerEntries =
        (@replay exampleJson renamedCalls Db.fresh).ledgerEntries ∧
      feedCreditSats (@replay exampleJson privateCalls Db.fresh) =
        feedCreditSats (@replay exampleJson renamedCalls Db.fresh) := by
  have valid : exampleIntent.PrivatelyValid :=
    ⟨by decide +kernel, by decide +kernel, by decide +kernel, by decide +kernel⟩
  have validRenamed : (exampleIntent.rename exampleNames).PrivatelyValid :=
    ⟨by decide +kernel, by decide +kernel, by decide +kernel, by decide +kernel⟩
  have keyValid : exampleReceipt.PrivatelyValid := by
    unfold XmrReceiptObservation.PrivatelyValid
    decide +kernel
  have keyValidRenamed : (exampleReceipt.rename exampleNames).PrivatelyValid := by
    unfold XmrReceiptObservation.PrivatelyValid
    decide +kernel
  exact @receipts_stay_private exampleNames exampleJson _ _ _ _
    (@replay_run exampleJson privateCalls Db.fresh)
    (@replay_run exampleJson renamedCalls Db.fresh)
    (.cons (.registerXmrCreditIntent valid validRenamed)
      (.cons (.recordXmrReceipt keyValid keyValidRenamed)
        (.cons (.recordPayment examplePayment) (.cons (.holdXmrCreditIntent ⟨1⟩) .nil))))

end LightningGoats
