import LightningGoats.Ledger.CreditTables

/-! # XMR allocations are watermark accounts

The allocation of an intent is the account that its grants build up: the
eligible amount is the total of the granted receipts and the credited sats are
what the terms make of it. Every exit of a recorded receipt keeps this, so the
check for a mismatch never fires.
-/

namespace LightningGoats

open Outcome Relational

/-! ## The grants of a valuation -/

section Grants

variable {db after : Db} {id : String}

theorem grantsOf_eq {granted : CreditGrant × AssetReceipt} :
    granted ∈ grantsOf id db ↔ granted.1 ∈ db.creditGrants.rows ∧
      (granted.1.receiptId, granted.2) ∈ db.assetReceipts.entries ∧
      granted.2.valuationId = id := by
  rcases granted with ⟨grant, receipt⟩
  simp only [grantsOf, List.mem_filterMap, Option.bind_eq_some_iff, Table.get?_eq_some]
  constructor
  · rintro ⟨_, member, found, stored, selected⟩
    split at selected
    · cases selected
      exact ⟨member, stored, by assumption⟩
    · cases selected
  · rintro ⟨member, stored, same⟩
    exact ⟨grant, member, receipt, stored, by rw [if_pos same]⟩

theorem grantsOf_congr (grants : after.creditGrants = db.creditGrants)
    (receipts : ∀ grant ∈ db.creditGrants.rows,
      after.assetReceipts.get? grant.receiptId = db.assetReceipts.get? grant.receiptId) :
    grantsOf id after = grantsOf id db := by
  unfold grantsOf
  rw [grants]
  refine List.filterMap_congr fun grant member => ?_
  rw [receipts grant member]

theorem grantsOf_insertReceipt (tables : CreditTables db) {receipt : AssetReceipt}
    (fresh : db.assetReceipts.Fresh receipt) (grants : after.creditGrants = db.creditGrants)
    (receipts : after.assetReceipts = db.assetReceipts.insert receipt fresh) :
    grantsOf id after = grantsOf id db := by
  refine grantsOf_congr grants fun grant member => ?_
  rcases tables.granted grant member with ⟨stored, isStored⟩
  have found := Table.get?_eq_some.mpr isStored
  rw [found, receipts]
  exact Table.get?_insert_of_some fresh found

theorem grantsOf_unlock (id : String) (db : Db) (receiptId : Nat) :
    grantsOf id (unlockReceipt receiptId db) =
      (grantsOf id db).map fun granted =>
        (granted.1, granted.2.unlock receiptId granted.1.receiptId) := by
  unfold grantsOf
  rw [List.map_filterMap]
  refine List.filterMap_congr fun grant _ => ?_
  simp only [unlockReceipt, Table.get?_updateEntries]
  cases db.assetReceipts.get? grant.receiptId with
  | none => rfl
  | some receipt =>
      simp only [Option.map_some, Option.bind_some, AssetReceipt.unlock_valuationId]
      split <;> rfl

theorem grantsOf_insertGrant (id : String) {grant : CreditGrant} {receipt : AssetReceipt}
    (fresh : db.creditGrants.Fresh grant)
    (grants : after.creditGrants = db.creditGrants.insert grant fresh)
    (receipts : after.assetReceipts = db.assetReceipts)
    (stored : (grant.receiptId, receipt) ∈ db.assetReceipts.entries) :
    grantsOf id after = grantsOf id db ++
      if receipt.valuationId = id then [(grant, receipt)] else [] := by
  unfold grantsOf
  rw [grants, receipts, Table.rows_insert, List.filterMap_append]
  congr 1
  simp only [List.filterMap_cons, List.filterMap_nil, Table.get?_eq_some.mpr stored,
    Option.bind_some]
  by_cases same : receipt.valuationId = id
  · simp [same]
  · simp [same]

theorem grantsOf_eq_nil (tables : CreditTables db)
    (absent : ∀ valuation ∈ db.creditValuations.rows, valuation.id ≠ id) :
    grantsOf id db = [] := by
  refine List.eq_nil_iff_forall_not_mem.mpr fun granted member => ?_
  rcases grantsOf_eq.mp member with ⟨_, stored, same⟩
  rcases tables.received granted.2 (Table.mem_rows_of_mem_entries stored) with
    ⟨valuation, valued, sameId⟩
  exact absent valuation valued (sameId.trans same)

end Grants

/-! ## Accounts -/

def grantedAmounts (id : String) (db : Db) : List Int :=
  (grantsOf id db).map fun granted => granted.2.amountAtomic

def grantedDeltas (id : String) (db : Db) : List Int :=
  (grantsOf id db).map fun granted => granted.1.deltaSats

def watermarkEntry (granted : CreditGrant × AssetReceipt) : Watermark.Entry :=
  ⟨granted.2.amountAtomic, granted.1.deltaSats, granted.1.cumulativeAtomic,
    granted.1.cumulativeSats⟩

def XmrCreditIntent.account (intent : XmrCreditIntent) (db : Db) :
    Watermark.Account intent.quote.terms.value :=
  (Watermark.Account.start _).grantAll (grantedAmounts (xmrId intent.id) db)

/-- The allocation of an intent is the account of its grants. -/
structure AccountSound (db : Db) (intent : XmrCreditIntent) (allocation : AllocationRow) :
    Prop where
  eligible : allocation.eligibleAtomic = (intent.account db).total
  credited : allocation.creditedSats = (intent.account db).credited
  deltas : allocation.creditedSats = (grantedDeltas (xmrId intent.id) db).sum
  nonneg : 0 ≤ allocation.eligibleAtomic
  bounded : allocation.eligibleAtomic ≤ maxAccountingUnits
  capped : allocation.creditedSats ≤ intent.maxCreditSats
  running : Watermark.Running ((grantsOf (xmrId intent.id) db).map watermarkEntry)
  granted : ∀ granted ∈ grantsOf (xmrId intent.id) db, granted.2.unlocked = true ∧
    granted.2.eligible = true ∧ InWindow intent.stored granted.2.firstSeenAt
  positive : ∀ granted ∈ grantsOf (xmrId intent.id) db, 0 < granted.2.amountAtomic
  rising : ∀ granted ∈ grantsOf (xmrId intent.id) db, 0 ≤ granted.1.deltaSats
  consistent : allocation.holdReason ≠ some .allocationMismatch
  refused : ∀ receipt ∈ db.assetReceipts.rows, receipt.valuationId = xmrId intent.id →
    InWindow intent.stored receipt.firstSeenAt → receipt.eligible = false →
      allocation.holdReason.isSome = true

namespace AccountSound

variable {db after : Db} {intent : XmrCreditIntent} {allocation : AllocationRow}

theorem total (sound : AccountSound db intent allocation) :
    allocation.eligibleAtomic = (grantedAmounts (xmrId intent.id) db).sum := by
  rw [sound.eligible, XmrCreditIntent.account, Watermark.Account.grantAll_total]
  exact zero_add _

theorem worth (sound : AccountSound db intent allocation) :
    allocation.creditedSats = intent.quote.terms.value allocation.eligibleAtomic := by
  rw [sound.credited, sound.eligible, (intent.account db).aligned]

theorem credited_nonneg (sound : AccountSound db intent allocation) :
    0 ≤ allocation.creditedSats := by
  rw [sound.worth]
  exact Watermark.share_nonneg (Int.natCast_nonneg _)
    (Int.natCast_pos.mpr intent.quote.terms.expectedPositive) sound.nonneg

end AccountSound

def XmrAccounts (db : Db) : Prop :=
  ∀ intent : XmrCreditIntent, intent.stored ∈ db.creditValuations.rows →
    ∀ allocation ∈ db.creditAllocations.rows, allocation.valuationId = xmrId intent.id →
      AccountSound db intent allocation

/-! ## What the changes do to an account -/

section Changes

variable {scope : Scope} {before after : Db} {intent : XmrCreditIntent} {allocation : AllocationRow}

/-- An account survives when its grants, its watermarks and the receipts under
its valuation do, and holds are at most added. -/
theorem AccountSound.transport {next : AllocationRow}
    (sound : AccountSound before intent allocation)
    (grants : grantsOf (xmrId intent.id) after = grantsOf (xmrId intent.id) before)
    (eligible : next.eligibleAtomic = allocation.eligibleAtomic)
    (credited : next.creditedSats = allocation.creditedSats)
    (consistent : next.holdReason ≠ some .allocationMismatch)
    (refused : ∀ receipt ∈ after.assetReceipts.rows, receipt.valuationId = xmrId intent.id →
      InWindow intent.stored receipt.firstSeenAt → receipt.eligible = false →
        next.holdReason.isSome = true) :
    AccountSound after intent next := by
  have account : intent.account after = intent.account before := by
    rw [XmrCreditIntent.account, grantedAmounts, grants]
    rfl
  exact {
    eligible := by rw [eligible, account, sound.eligible]
    credited := by rw [credited, account, sound.credited]
    deltas := by rw [credited, grantedDeltas, grants]; exact sound.deltas
    nonneg := by rw [eligible]; exact sound.nonneg
    bounded := by rw [eligible]; exact sound.bounded
    capped := by rw [credited]; exact sound.capped
    running := by rw [grants]; exact sound.running
    granted := by rw [grants]; exact sound.granted
    positive := by rw [grants]; exact sound.positive
    rising := by rw [grants]; exact sound.rising
    consistent := consistent
    refused := refused }

theorem AccountSound.opened {id : String} (grants : grantsOf (xmrId intent.id) after = [])
    (receipts : ∀ receipt ∈ after.assetReceipts.rows, receipt.valuationId ≠ xmrId intent.id) :
    AccountSound after intent ⟨id, 0, 0, none⟩ := by
  have start : intent.account after = .start intent.quote.terms.value := by
    rw [XmrCreditIntent.account, grantedAmounts, grants]
    rfl
  exact {
    eligible := by rw [start]; rfl
    credited := by rw [start]; exact (Watermark.share_zero _ _).symm
    deltas := by rw [grantedDeltas, grants]; rfl
    nonneg := Int.le_refl 0
    bounded := Int.natCast_nonneg _
    capped := Int.natCast_nonneg _
    running := by rw [grants]; exact Watermark.running_nil
    granted := by rw [grants]; simp
    positive := by rw [grants]; simp
    rising := by rw [grants]; simp
    consistent := by simp
    refused := fun receipt member same => absurd same (receipts receipt member) }

/-- A grant that is due extends the account by one arrival. -/
theorem AccountSound.grant {receiptId : Nat} {receipt : AssetReceipt} {terms : CreditTerms}
    {update : CreditUpdate} {ledgerEntryId eventSeq : Option Nat}
    (sound : AccountSound before intent allocation)
    (due : GrantDue before intent.id intent.stored allocation receiptId receipt terms update)
    (positive : 0 < receipt.amountAtomic)
    (grants : grantsOf (xmrId intent.id) after = grantsOf (xmrId intent.id) before ++
      [(update.grant receiptId ledgerEntryId eventSeq, receipt)])
    (receipts : after.assetReceipts = before.assetReceipts) :
    AccountSound after intent
      (allocation.setWatermarks (xmrId intent.id) update.cumulativeEligible.atomicUnits
        update.cumulativeCreditSats) := by
  have account : intent.account after =
      (intent.account before).grant receipt.amountAtomic := by
    rw [XmrCreditIntent.account, grantedAmounts, grants, List.map_append, List.map_cons,
      List.map_nil, Watermark.Account.grantAll_concat]
    rfl
  have sameTerms : terms.value = intent.quote.terms.value := by
    funext amount
    have expected : (intent.quote.terms.expectedAtomic : Int) = terms.expectedAtomic :=
      due.expected
    have target : (intent.quote.terms.targetSats : Int) = terms.targetSats := due.target
    rw [CreditTerms.value, CreditTerms.value, expected, target]
  have next : allocation.setWatermarks (xmrId intent.id) update.cumulativeEligible.atomicUnits
      update.cumulativeCreditSats =
        { allocation with
          eligibleAtomic := update.cumulativeEligible.atomicUnits
          creditedSats := update.cumulativeCreditSats } := by
    rw [AllocationRow.setWatermarks, if_pos due.allocatedId]
  have eligible := due.eligible
  have delta := due.delta
  have isTotal := sound.total
  have isDeltas := sound.deltas
  rw [next]
  exact {
    eligible := by
      rw [account, Watermark.Account.grant_total, ← sound.eligible]
      exact eligible
    credited := by
      rw [account, Watermark.Account.aligned, Watermark.Account.grant_total, ← sound.eligible,
        ← sameTerms]
      exact due.worth
    deltas := by
      rw [grantedDeltas, grants, List.map_append, List.sum_append]
      simp only [List.map_cons, List.map_nil, List.sum_singleton, CreditUpdate.grant]
      rw [grantedDeltas] at isDeltas
      omega
    nonneg := Int.natCast_nonneg _
    bounded := Int.ofNat_le.mpr update.cumulativeEligible.bounded
    capped := by
      have capped := due.capped
      have wraps : asU64 intent.stored.maxCreditSats ≤ intent.maxCreditSats :=
        asU64_natCast_le intent.maxCreditSats
      exact Int.ofNat_le.mpr (Nat.le_trans capped wraps)
    running := by
      rw [grants, List.map_append]
      refine sound.running.concat ?_ ?_
      · rw [List.map_map]
        rw [grantedAmounts] at isTotal
        simp only [watermarkEntry, CreditUpdate.grant, Function.comp_def]
        omega
      · rw [List.map_map]
        rw [grantedDeltas] at isDeltas
        simp only [watermarkEntry, CreditUpdate.grant, Function.comp_def]
        omega
    granted := by
      rw [grants]
      intro granted member
      rcases List.mem_append.mp member with old | added
      · exact sound.granted granted old
      · rw [List.mem_singleton] at added
        subst added
        refine ⟨due.unlocked, ?_, due.timely⟩
        by_contra ineligible
        have held := sound.refused receipt (Table.mem_rows_of_mem_entries due.stored)
          due.storedId due.timely (by simpa using ineligible)
        rw [due.free] at held
        cases held
    positive := by
      rw [grants]
      intro granted member
      rcases List.mem_append.mp member with old | added
      · exact sound.positive granted old
      · rw [List.mem_singleton] at added
        subst added
        exact positive
    rising := by
      rw [grants]
      intro granted member
      rcases List.mem_append.mp member with old | added
      · exact sound.rising granted old
      · rw [List.mem_singleton] at added
        subst added
        exact Int.natCast_nonneg _
    consistent := sound.consistent
    refused := by rw [receipts]; exact sound.refused }

end Changes

/-- A stored quote keeps the credit limit of its intent within the database. -/
theorem CreditTables.limited {db : Db} {intent : XmrCreditIntent} (tables : CreditTables db)
    (valued : intent.stored ∈ db.creditValuations.rows) : intent.Limited := by
  rcases tables.quoted _ valued rfl with ⟨other, limited, same⟩
  have target : intent.quote.terms.targetSats = other.quote.terms.targetSats :=
    Int.ofNat.inj (congrArg Valuation.targetSats same)
  have limit : intent.maxCreditSats = other.maxCreditSats :=
    Int.ofNat.inj (congrArg Valuation.maxCreditSats same)
  unfold XmrCreditIntent.Limited
  rw [target, limit]
  exact limited

theorem AccountSound.not_misaligned {db : Db} {intent : XmrCreditIntent}
    {allocation : AllocationRow} (sound : AccountSound db intent allocation)
    (limited : intent.Limited) : ¬ Misaligned intent.stored allocation db := by
  rintro ⟨terms, atomic, sats, expected, target, isXmr, isAtomic, isSats, checked⟩
  have disagree := mt (watermarksAgree_iff checked).mpr Bool.false_ne_true
  refine disagree ⟨?_, ?_, ?_⟩
  · have total : atomic = (grantedAmounts (xmrId intent.id) db).sum := sqlSum_total isAtomic
    rw [total, ← sound.total]
    exact (Int.toNat_of_nonneg sound.nonneg).symm
  · have total : sats = (grantedDeltas (xmrId intent.id) db).sum := sqlSum_total isSats
    rw [total, ← sound.deltas]
    exact (Int.toNat_of_nonneg sound.credited_nonneg).symm
  · have eligible := Int.toNat_of_nonneg sound.nonneg
    have credited := Int.toNat_of_nonneg sound.credited_nonneg
    have bounded := sound.bounded
    have capped := sound.capped
    have limit := limited.2
    have fits : allocation.eligibleAtomic.toNat ≤ maxAccountingUnits := by omega
    refine ⟨_, AssetAmount.new_of fits, CreditTerms.cumulativeSats_eq_ok.mpr
      ⟨isXmr.symm, ?_, by simp only [AllocationRow.read]; omega⟩⟩
    have sameExpected : terms.expectedAtomic = intent.quote.terms.expectedAtomic :=
      Int.ofNat.inj expected
    have sameTarget : terms.targetSats = intent.quote.terms.targetSats :=
      Int.ofNat.inj target
    have worth := sound.worth
    rw [← eligible, CreditTerms.value_natCast, ← credited] at worth
    rw [sameExpected, sameTarget]
    exact Int.ofNat.inj worth

namespace XmrAccounts

variable {scope : Scope} {before after : Db}

theorem ofFresh : XmrAccounts Db.fresh := by
  intro intent valued
  cases valued

theorem congr (accounts : XmrAccounts before)
    (valuations : after.creditValuations = before.creditValuations)
    (allocations : after.creditAllocations = before.creditAllocations)
    (receipts : after.assetReceipts = before.assetReceipts)
    (grants : after.creditGrants = before.creditGrants) : XmrAccounts after := by
  intro intent valued allocation member same
  rw [valuations] at valued
  rw [allocations] at member
  have sound := accounts intent valued allocation member same
  refine sound.transport (grantsOf_congr grants fun _ _ => by rw [receipts]) rfl rfl
    sound.consistent ?_
  rw [receipts]
  exact sound.refused

theorem of_registers {registered : XmrCreditIntent} (tables : CreditTables before)
    (accounts : XmrAccounts before) (registers : Registers registered before after) :
    XmrAccounts after := by
  cases registers with
  | intro limited valuationFresh allocationFresh =>
    have newId : ∀ valuation ∈ before.creditValuations.rows,
        valuation.id ≠ xmrId registered.id := fun valuation member same =>
      valuationFresh valuation member (.inl (sameKey_iff.mpr ⟨_, rfl, by rw [same]; rfl⟩))
    intro intent valued allocation member same
    rcases (Table.mem_rows_insert allocationFresh).mp member with old | rfl
    · rcases (Table.mem_rows_insert valuationFresh).mp valued with oldValued | isNew
      · have sound := accounts intent oldValued allocation old same
        exact sound.transport rfl rfl rfl sound.consistent sound.refused
      · rcases tables.valuation_of_allocation old with ⟨valuation, isValued, sameId⟩
        have isId : intent.stored.id = registered.stored.id := congrArg Valuation.id isNew
        exact absurd (sameId.trans (same.trans isId)) (newId valuation isValued)
    · have isId := xmrId_inj.mp same
      have absent : ∀ valuation ∈ before.creditValuations.rows,
          valuation.id ≠ xmrId intent.id := isId ▸ newId
      have ungranted : grantsOf (xmrId intent.id) before = [] := grantsOf_eq_nil tables absent
      refine .opened ungranted fun receipt stored sameReceipt => ?_
      rcases tables.received receipt stored with ⟨valuation, isValued, sameId⟩
      exact absent valuation isValued (sameId.trans sameReceipt)

theorem of_holds {intentId : Uuid} {reason : CreditHold} (tables : CreditTables before)
    (accounts : XmrAccounts before)
    (evidence : reason = .allocationMismatch →
      ∃ valuation ∈ before.creditValuations.rows, valuation.asset = .xmr ∧
        ∃ allocation ∈ before.creditAllocations.rows,
          allocation.valuationId = valuation.id ∧ Misaligned valuation allocation before)
    (holds : Holds intentId reason before after) : XmrAccounts after := by
  have possible : reason ≠ .allocationMismatch := by
    intro mismatch
    rcases evidence mismatch with ⟨valuation, valued, isXmr, allocation, member, same, misaligned⟩
    rcases tables.quoted valuation valued isXmr with ⟨intent, limited, rfl⟩
    exact (accounts intent valued allocation member same).not_misaligned limited misaligned
  cases holds with
  | intro conflicts =>
    intro intent valued allocation member same
    have isHeld : ∃ old ∈ before.creditAllocations.rows,
        old.hold (xmrId intentId) reason = allocation := by
      simpa [holdAllocation] using member
    rcases isHeld with ⟨old, oldMember, rfl⟩
    rw [AllocationRow.hold_valuationId] at same
    have sound := accounts intent valued old oldMember same
    unfold AllocationRow.hold
    split
    · refine sound.transport rfl rfl rfl ?_ fun _ _ _ _ _ => ?_
      · have consistent := sound.consistent
        cases prior : old.holdReason with
        | none => simpa using possible
        | some earlier => simpa [prior] using consistent
      · cases old.holdReason <;> rfl
    · exact sound.transport rfl rfl rfl sound.consistent sound.refused

theorem of_stores {intentId : Uuid} (tables : CreditTables before)
    (accounts : XmrAccounts before) (stores : Stores intentId before after) :
    XmrAccounts after := by
  cases stores with
  | @intro valuation receipt quoted isId isXmr bound _ _ _ refused fresh =>
    intro intent valued allocation member same
    have sound := accounts intent valued allocation member same
    refine sound.transport (grantsOf_insertReceipt tables fresh rfl rfl) rfl rfl
      sound.consistent fun other stored sameId inWindow ineligible => ?_
    rcases (Table.mem_rows_insert fresh).mp stored with old | rfl
    · exact sound.refused other old sameId inWindow ineligible
    · have isIntent : xmrId intentId = xmrId intent.id := bound.symm.trans sameId
      have sameValuation : valuation = intent.stored :=
        before.creditValuations.row_eq_of_clash quoted valued
          (.inl (sameKey_iff.mpr ⟨_, rfl, by rw [isId, isIntent]; rfl⟩))
      rcases refused ineligible (sameValuation ▸ inWindow) with ⟨held, heldMember, heldId, isHeld⟩
      have sameAllocation : held = allocation :=
        before.creditAllocations.row_eq_of_clash heldMember member
          (sameKey_iff.mpr ⟨_, rfl, by rw [heldId, same, isIntent]⟩)
      rw [← sameAllocation]
      exact isHeld

theorem of_unlocks (accounts : XmrAccounts before) (receiptId : Nat) :
    XmrAccounts (unlockReceipt receiptId before) := by
  intro intent valued allocation member same
  have sound := accounts intent valued allocation member same
  have grants := grantsOf_unlock (xmrId intent.id) before receiptId
  have amounts : grantedAmounts (xmrId intent.id) (unlockReceipt receiptId before) =
      grantedAmounts (xmrId intent.id) before := by
    simp [grantedAmounts, grants, Function.comp_def]
  have account : intent.account (unlockReceipt receiptId before) = intent.account before := by
    rw [XmrCreditIntent.account, amounts]
    rfl
  exact { sound with
    eligible := by rw [account]; exact sound.eligible
    credited := by rw [account]; exact sound.credited
    deltas := by
      rw [sound.deltas]
      simp [grantedDeltas, grants, Function.comp_def]
    running := by
      have entries : (grantsOf (xmrId intent.id) (unlockReceipt receiptId before)).map
          watermarkEntry = (grantsOf (xmrId intent.id) before).map watermarkEntry := by
        simp [grants, watermarkEntry]
      rw [entries]
      exact sound.running
    granted := by
      rw [grants]
      intro granted isGranted
      rcases List.mem_map.mp isGranted with ⟨old, oldGranted, rfl⟩
      have facts := sound.granted old oldGranted
      exact ⟨AssetReceipt.unlock_unlocked facts.1, by simpa using facts.2.1,
        by simpa using facts.2.2⟩
    positive := by
      rw [grants]
      intro granted isGranted
      rcases List.mem_map.mp isGranted with ⟨old, oldGranted, rfl⟩
      simpa using sound.positive old oldGranted
    rising := by
      rw [grants]
      intro granted isGranted
      rcases List.mem_map.mp isGranted with ⟨old, oldGranted, rfl⟩
      exact sound.rising old oldGranted
    refused := by
      intro receipt stored sameId inWindow ineligible
      rcases mem_rows_unlockReceipt.mp stored with ⟨entry, isEntry, rfl⟩
      exact sound.refused entry.2 (Table.mem_rows_of_mem_entries isEntry)
        (by simpa using sameId) (by simpa using inWindow) (by simpa using ineligible) }

theorem of_grant {intentId : Uuid} {valuation : Valuation} {granted : AllocationRow}
    {receiptId : Nat} {receipt : AssetReceipt} {terms : CreditTerms} {update : CreditUpdate}
    {ledgerEntryId eventSeq : Option Nat} (tables : CreditTables before)
    (accounts : XmrAccounts before)
    (due : GrantDue before intentId valuation granted receiptId receipt terms update)
    (fresh : before.creditGrants.Fresh (update.grant receiptId ledgerEntryId eventSeq))
    (valuations : after.creditValuations = before.creditValuations)
    (receipts : after.assetReceipts = before.assetReceipts)
    (grants : after.creditGrants = before.creditGrants.insert _ fresh)
    (allocations : after.creditAllocations = update.allocations (xmrId intentId) before) :
    XmrAccounts after := by
  intro intent valued allocation member same
  rw [valuations] at valued
  have isNext : ∃ old ∈ before.creditAllocations.rows,
      old.setWatermarks (xmrId intentId) update.cumulativeEligible.atomicUnits
        update.cumulativeCreditSats = allocation := by
    rw [allocations] at member
    simpa [CreditUpdate.allocations] using member
  rcases isNext with ⟨old, oldMember, rfl⟩
  rw [AllocationRow.setWatermarks_valuationId] at same
  have sound := accounts intent valued old oldMember same
  have appended := grantsOf_insertGrant (xmrId intent.id) fresh grants receipts due.stored
  by_cases isIntent : xmrId intentId = xmrId intent.id
  · have sameIntent := xmrId_inj.mp isIntent
    subst sameIntent
    have sameValuation : valuation = intent.stored :=
      before.creditValuations.row_eq_of_clash due.valued valued
        (.inl (sameKey_iff.mpr ⟨_, rfl, by rw [due.isId]; rfl⟩))
    have sameAllocation : granted = old :=
      before.creditAllocations.row_eq_of_clash due.allocated oldMember
        (sameKey_iff.mpr ⟨_, rfl, by rw [due.allocatedId, same]⟩)
    subst sameValuation sameAllocation
    rw [if_pos due.storedId] at appended
    exact sound.grant due (tables.positive receipt (Table.mem_rows_of_mem_entries due.stored))
      appended receipts
  · have other : receipt.valuationId ≠ xmrId intent.id := by
      rw [due.storedId]
      exact isIntent
    have unchanged : old.setWatermarks (xmrId intentId) update.cumulativeEligible.atomicUnits
        update.cumulativeCreditSats = old := by
      rw [AllocationRow.setWatermarks, if_neg (by rw [same]; exact Ne.symm isIntent)]
    rw [if_neg other, List.append_nil] at appended
    rw [unchanged]
    exact sound.transport appended rfl rfl sound.consistent (receipts ▸ sound.refused)

theorem of_settles {payment : SettledPayment} (tables : CreditTables before)
    (accounts : XmrAccounts before) (settles : Settles payment before after) :
    XmrAccounts after := by
  cases settles with
  | intro creditable rowFresh entryFresh read valuationFresh allocationFresh allocationRows
      receiptFresh grantFresh =>
    intro intent valued allocation member same
    have oldValued : intent.stored ∈ before.creditValuations.rows := by
      rcases (Table.mem_rows_insert valuationFresh).mp valued with old | isNative
      · exact old
      · exact absurd (congrArg Valuation.id isNative) (xmrId_ne_btcId _ _)
    have oldMember : allocation ∈ before.creditAllocations.rows := by
      have listed : allocation ∈ _ ++ _ := allocationRows ▸ member
      rcases List.mem_append.mp listed with old | isNative
      · exact old
      · rw [List.mem_singleton] at isNative
        subst isNative
        exact absurd same.symm (xmrId_ne_btcId _ _)
    have sound := accounts intent oldValued allocation oldMember same
    let received := { before with
      assetReceipts := before.assetReceipts.insert _ receiptFresh }
    have first : grantsOf (xmrId intent.id) received = grantsOf (xmrId intent.id) before :=
      grantsOf_insertReceipt tables receiptFresh rfl rfl
    have second := @grantsOf_insertGrant received { received with
      creditGrants := before.creditGrants.insert _ grantFresh } (xmrId intent.id) _ _
      grantFresh rfl rfl (Table.mem_entries_insert_new receiptFresh)
    have notXmr : (btcReceipt before.settledPayments.nextRowid payment.settledRow
        payment.sats).valuationId ≠ xmrId intent.id := (xmrId_ne_btcId _ _).symm
    rw [first, if_neg notXmr, List.append_nil] at second
    refine sound.transport second rfl rfl sound.consistent
      fun receipt stored sameId inWindow ineligible => ?_
    rcases (Table.mem_rows_insert receiptFresh).mp stored with old | rfl
    · exact sound.refused receipt old sameId inWindow ineligible
    · cases ineligible

theorem of_quiet (tables : CreditTables before) (accounts : XmrAccounts before)
    (quiet : Quiet scope before after) : XmrAccounts after := by
  cases quiet with
  | registers registers => exact accounts.of_registers tables registers
  | holds evidence holds => exact accounts.of_holds tables evidence holds
  | stores stores => exact accounts.of_stores tables stores
  | unlocks => exact accounts.of_unlocks _
  | grantsDust grants =>
    cases grants with
    | intro due _ fresh => exact accounts.of_grant tables due fresh rfl rfl rfl rfl
  | begins begins => cases begins; exact accounts.congr rfl rfl rfl rfl
  | moves moves => cases moves; exact accounts.congr rfl rfl rfl rfl
  | cools => exact accounts.congr rfl rfl rfl rfl
  | logs logs => cases logs; exact accounts.congr rfl rfl rfl rfl
  | strike => exact accounts.congr rfl rfl rfl rfl

theorem of_booking (tables : CreditTables before) (accounts : XmrAccounts before)
    (booking : Booking scope before after) : XmrAccounts after := by
  cases booking with
  | settles settles => exact accounts.of_settles tables settles
  | grants grants =>
    cases grants with
    | intro due _ _ _ _ fresh => exact accounts.of_grant tables due fresh rfl rfl rfl rfl
  | debits debits => cases debits; exact accounts.congr rfl rfl rfl rfl
  | announces announces => cases announces; exact accounts.congr rfl rfl rfl rfl

end XmrAccounts

structure CreditSound (db : Db) : Prop where
  tables : CreditTables db
  accounts : XmrAccounts db

namespace CreditSound

theorem ofFresh : CreditSound Db.fresh :=
  ⟨.ofFresh, .ofFresh⟩

variable {scope : Scope} {before after : Db}

theorem of_quiet (sound : CreditSound before) (quiet : Quiet scope before after) :
    CreditSound after :=
  ⟨sound.tables.of_quiet quiet, sound.accounts.of_quiet sound.tables quiet⟩

theorem of_booking (sound : CreditSound before) (booking : Booking scope before after) :
    CreditSound after :=
  ⟨sound.tables.of_booking booking, sound.accounts.of_booking sound.tables booking⟩

theorem of_run [SerdeJson] {labels : List LedgerLabel}
    (run : LedgerRun Db.fresh labels after) : CreditSound after :=
  ledgerRun_invariant of_quiet of_booking run ofFresh

end CreditSound

/-! ## Every reachable account -/

/-- What the watermarks of an XMR valuation promise. -/
structure WatermarksHold (db : Db) (valuation : Valuation) (allocation : AllocationRow) :
    Prop where
  eligible : allocation.eligibleAtomic = (grantedAmounts valuation.id db).sum
  credited : allocation.creditedSats = (grantedDeltas valuation.id db).sum
  floored : allocation.creditedSats =
    allocation.eligibleAtomic * valuation.targetSats / valuation.expectedAtomic
  capped : allocation.creditedSats ≤ valuation.maxCreditSats
  granted : ∀ granted ∈ grantsOf valuation.id db, granted.2.unlocked = true ∧
    granted.2.eligible = true ∧ InWindow valuation granted.2.firstSeenAt
  running : ∀ position granted, (grantsOf valuation.id db)[position]? = some granted →
    granted.1.cumulativeAtomic =
        ((grantedAmounts valuation.id db).take (position + 1)).sum ∧
      granted.1.cumulativeSats = ((grantedDeltas valuation.id db).take (position + 1)).sum
  consistent : allocation.holdReason ≠ some .allocationMismatch

theorem AccountSound.watermarks {db : Db} {intent : XmrCreditIntent}
    {allocation : AllocationRow} (sound : AccountSound db intent allocation) :
    WatermarksHold db intent.stored allocation where
  eligible := sound.total
  credited := sound.deltas
  floored := sound.worth
  capped := sound.capped
  granted := sound.granted
  running := by
    intro position granted found
    have entry : ((grantsOf (xmrId intent.id) db).map watermarkEntry)[position]? =
        some (watermarkEntry granted) := by
      rw [List.getElem?_map]
      exact congrArg (Option.map watermarkEntry) found
    have totals := sound.running position _ entry
    rw [← List.map_take, List.map_map, List.map_map] at totals
    rw [grantedAmounts, grantedDeltas, ← List.map_take, ← List.map_take]
    exact totals
  consistent := sound.consistent

/-- In every reachable state each XMR valuation has one allocation, whose
watermarks hold, and no receipt is granted twice. -/
theorem xmr_watermarks_hold [SerdeJson] {labels : List LedgerLabel} {db : Db}
    (run : LedgerRun Db.fresh labels db) :
    (∀ valuation ∈ db.creditValuations.rows, valuation.asset = .xmr →
      ∃ allocation,
        (db.creditAllocations.rows.filter fun row => row.valuationId = valuation.id) =
          [allocation] ∧ WatermarksHold db valuation allocation) ∧
    (db.creditGrants.rows.map CreditGrant.receiptId).Nodup := by
  have sound := CreditSound.of_run run
  constructor
  · intro valuation valued isXmr
    rcases sound.tables.quoted valuation valued isXmr with ⟨intent, _, rfl⟩
    rcases sound.tables.allocation_of_valuation valued with ⟨allocation, member, same⟩
    have nodup := db.creditAllocations.rows_nodup fun _ => sameKey_iff.mpr ⟨_, rfl, rfl⟩
    refine ⟨allocation, filter_eq_singleton nodup member (by simpa using same) ?_,
      (sound.accounts intent valued allocation member same).watermarks⟩
    intro other otherMember otherSame
    exact db.creditAllocations.row_eq_of_clash otherMember member
      (sameKey_iff.mpr ⟨_, rfl, by rw [same, ← decide_eq_true_eq.mp otherSame]⟩)
  · refine List.pairwise_map.mpr (List.pairwise_map.mpr (db.creditGrants.distinct.imp ?_))
    intro left right distinct same
    exact distinct (.inl (sameKey_iff.mpr ⟨_, rfl, by rw [same]⟩))

theorem xmr_watermarks_hold_example :
    (exampleDb.creditAllocations.rows.map fun row => (row.eligibleAtomic, row.creditedSats)) =
        [(5, 5), (3, 1)] ∧
      (∀ valuation ∈ exampleDb.creditValuations.rows, valuation.asset = .xmr →
        ∃ allocation,
          (exampleDb.creditAllocations.rows.filter fun row =>
            row.valuationId = valuation.id) = [allocation] ∧
            WatermarksHold exampleDb valuation allocation) ∧
      (exampleDb.creditGrants.rows.map CreditGrant.receiptId).Nodup :=
  ⟨by decide +kernel, @xmr_watermarks_hold exampleJson _ _ exampleRun⟩

end LightningGoats
