import Mathlib.Algebra.BigOperators.Group.Finset.Basic
import Mathlib.Algebra.Order.BigOperators.Group.Finset
import LightningGoats.Ledger.Granting

/-! # Consistent observations of an intent

A family says once and for all how much each receipt of an intent is and when
it was first seen. While only the observations of a family arrive, the ledger
is determined by two sets of keys: those that have been seen unlocked, and
among them those that are eligible.
-/

namespace LightningGoats

open Outcome Relational

structure ReceiptFamily where
  amount : String → Nat
  firstSeenAt : String → Int

namespace ReceiptFamily

/-- The observation is a valid one of a receipt of the family, made at the
receive binding of the intent. -/
structure Observes (family : ReceiptFamily) (intent : XmrCreditIntent)
    (observation : XmrReceiptObservation) : Prop where
  valid : ∃ amount, validateObservation observation = .ok amount
  binds : observation.Binds intent.stored
  amount : observation.amount.atomicUnits = family.amount observation.receiptKey
  firstSeen : observation.firstSeenAt = family.firstSeenAt observation.receiptKey
  noDoubleSpend : observation.doubleSpendSeen = false

def Timely (family : ReceiptFamily) (quote : XmrQuote) (key : String) : Prop :=
  quote.issuedAt ≤ family.firstSeenAt key ∧ family.firstSeenAt key < quote.expiresAt

instance (family : ReceiptFamily) (quote : XmrQuote) : DecidablePred (family.Timely quote) :=
  fun key => inferInstanceAs (Decidable (quote.issuedAt ≤ family.firstSeenAt key ∧
    family.firstSeenAt key < quote.expiresAt))

def total (family : ReceiptFamily) (keys : Finset String) : Nat :=
  ∑ key ∈ keys, family.amount key

end ReceiptFamily

structure ReceiptStored (family : ReceiptFamily) (unlocked eligible : Finset String) (db : Db)
    (entry : Nat × AssetReceipt) : Prop where
  amount : entry.2.amountAtomic = family.amount entry.2.receiptKey
  firstSeen : entry.2.firstSeenAt = some (family.firstSeenAt entry.2.receiptKey)
  unlocked : entry.2.unlocked = true ↔ entry.2.receiptKey ∈ unlocked
  granted : (∃ grant ∈ db.creditGrants.rows, grant.receiptId = entry.1) ↔
    entry.2.receiptKey ∈ eligible

/-- The ledger once the keys in `unlocked` have been seen unlocked and those in
`eligible` have been granted. -/
structure FamilyState (family : ReceiptFamily) (intent : XmrCreditIntent)
    (unlocked eligible : Finset String) (db : Db) : Prop where
  valued : intent.stored ∈ db.creditValuations.rows
  account : ∃ allocation ∈ db.creditAllocations.rows,
    allocation.valuationId = xmrId intent.id ∧ allocation.holdReason = none ∧
      allocation.eligibleAtomic = family.total eligible
  stored : ∀ entry ∈ db.assetReceipts.entries, entry.2.valuationId = xmrId intent.id →
    ReceiptStored family unlocked eligible db entry
  kept : ∀ key ∈ unlocked, ∃ entry ∈ db.assetReceipts.entries,
    entry.2.valuationId = xmrId intent.id ∧ entry.2.receiptKey = key
  within : eligible ⊆ unlocked

section Family

variable {family : ReceiptFamily} {intent : XmrCreditIntent}
  {unlocked eligible : Finset String} {db after : Db}
  {observation : XmrReceiptObservation}

theorem receipt_unique {left right : Nat × AssetReceipt}
    (leftStored : left ∈ db.assetReceipts.entries)
    (rightStored : right ∈ db.assetReceipts.entries)
    (leftId : left.2.valuationId = xmrId intent.id)
    (rightId : right.2.valuationId = xmrId intent.id)
    (sameKey : left.2.receiptKey = right.2.receiptKey) : left = right :=
  db.assetReceipts.entry_eq_of_clash leftStored rightStored
    (.inl (sameKey_iff.mpr ⟨_, rfl, by rw [leftId, rightId, sameKey]⟩))

def XmrReceiptObservation.unlocks (observation : XmrReceiptObservation)
    (unlocked : Finset String) : Finset String :=
  if observation.unlocked = true then insert observation.receiptKey unlocked else unlocked

theorem XmrReceiptObservation.mem_unlocks {key : String} :
    key ∈ observation.unlocks unlocked ↔
      key ∈ unlocked ∨ observation.unlocked = true ∧ key = observation.receiptKey := by
  unfold unlocks
  split
  · rename_i isUnlocked
    simp [isUnlocked, or_comm]
  · rename_i locked
    simp [locked]

/-! ## Storing and unlocking -/

theorem FamilyState.insert (state : FamilyState family intent unlocked eligible db)
    (tables : CreditTables db) {receipt : AssetReceipt}
    (fresh : db.assetReceipts.Fresh receipt) (owned : receipt.valuationId = xmrId intent.id)
    (amount : receipt.amountAtomic = family.amount receipt.receiptKey)
    (firstSeen : receipt.firstSeenAt = some (family.firstSeenAt receipt.receiptKey))
    (unlockedNow : Finset String)
    (isUnlocked : receipt.unlocked = true ↔ receipt.receiptKey ∈ unlockedNow)
    (others : ∀ key, key ≠ receipt.receiptKey → (key ∈ unlockedNow ↔ key ∈ unlocked))
    (isNew : receipt.receiptKey ∉ unlocked) :
    FamilyState family intent unlockedNow eligible
      { db with assetReceipts := db.assetReceipts.insert receipt fresh } where
  valued := state.valued
  account := state.account
  stored := by
    intro entry member sameId
    rcases (Table.mem_entries_insert fresh).mp member with old | rfl
    · have stored := state.stored entry old sameId
      have otherKey : entry.2.receiptKey ≠ receipt.receiptKey := fun same =>
        fresh entry.2 (Table.mem_rows_of_mem_entries old)
          (.inl (sameKey_iff.mpr ⟨_, rfl, by rw [owned, sameId, same]⟩))
      exact { stored with unlocked := stored.unlocked.trans (others _ otherKey).symm }
    · refine ⟨amount, firstSeen, isUnlocked, ?_⟩
      constructor
      · rintro ⟨grant, granted, same⟩
        rcases tables.granted grant granted with ⟨old, oldStored⟩
        rw [same] at oldStored
        exact absurd oldStored (db.assetReceipts.nextRowid_not_mem old)
      · intro isEligible
        exact absurd (state.within isEligible) isNew
  kept := by
    intro key member
    by_cases same : key = receipt.receiptKey
    · exact ⟨_, Table.mem_entries_insert_new fresh, owned, same.symm⟩
    · rcases state.kept key ((others key same).mp member) with ⟨entry, stored, facts⟩
      exact ⟨entry, Table.mem_entries_insert_old fresh stored, facts⟩
  within := by
    intro key member
    have wasUnlocked := state.within member
    exact (others key fun same => isNew (same ▸ wasUnlocked)).mpr wasUnlocked

theorem FamilyState.unlock (state : FamilyState family intent unlocked eligible db)
    {entry : Nat × AssetReceipt} (isStored : entry ∈ db.assetReceipts.entries)
    (owned : entry.2.valuationId = xmrId intent.id) :
    FamilyState family intent (Insert.insert entry.2.receiptKey unlocked) eligible
      (unlockReceipt entry.1 db) where
  valued := state.valued
  account := state.account
  stored := by
    intro moved member sameId
    rcases List.mem_map.mp member with ⟨old, oldStored, rfl⟩
    simp only [AssetReceipt.unlock_valuationId] at sameId
    have stored := state.stored old oldStored sameId
    refine ⟨by simpa using stored.amount, by simpa using stored.firstSeen, ?_, by
      rw [AssetReceipt.unlock_receiptKey]
      exact stored.granted⟩
    simp only [AssetReceipt.unlock_receiptKey, Finset.mem_insert]
    by_cases same : old.1 = entry.1
    · have alsoStored : (entry.1, old.2) ∈ db.assetReceipts.entries := by
        rw [← same]
        exact oldStored
      have isEntry : old = entry :=
        Prod.ext same (db.assetReceipts.row_unique alsoStored isStored)
      subst isEntry
      simp [AssetReceipt.unlock]
    · have otherKey : old.2.receiptKey ≠ entry.2.receiptKey := fun sameKey =>
        same (congrArg Prod.fst (receipt_unique oldStored isStored sameId owned sameKey))
      simp [AssetReceipt.unlock, same, otherKey, stored.unlocked]
  kept := by
    intro key member
    rcases Finset.mem_insert.mp member with rfl | old
    · exact ⟨_, List.mem_map_of_mem isStored, by simpa using owned, by simp⟩
    · rcases state.kept key old with ⟨other, stored, sameId, sameKey⟩
      exact ⟨_, List.mem_map_of_mem stored, by simpa using sameId, by simpa using sameKey⟩
  within := fun _ member => Finset.mem_insert_of_mem (state.within member)

theorem FamilyState.noConflict (state : FamilyState family intent unlocked eligible db)
    (observes : family.Observes intent observation)
    (stays : observation.receiptKey ∈ unlocked → observation.unlocked = true) :
    storedConflict intent.id observation db = none := by
  cases search : findReceipt (xmrId intent.id) observation.receiptKey db with
  | none => rw [storedConflict, search, Option.bind_none]
  | some entry =>
      rcases findReceipt_eq_some search with ⟨member, sameId, sameKey⟩
      have stored := state.stored entry member sameId
      have amount : ¬ (entry.2.amountAtomic ≠ observation.amount.atomicUnits ∨
          entry.2.firstSeenAt ≠ some observation.firstSeenAt) := by
        rw [stored.amount, stored.firstSeen, sameKey, observes.amount, observes.firstSeen]
        simp
      have notLocked : ¬ (entry.2.unlocked = true ∧ observation.unlocked = false) := by
        rintro ⟨wasUnlocked, isLocked⟩
        rw [stored.unlocked, sameKey] at wasUnlocked
        rw [stays wasUnlocked] at isLocked
        cases isLocked
      rw [storedConflict, search, Option.bind_some, conflictReason, if_neg amount,
        if_neg notLocked, observes.noDoubleSpend]
      rfl

theorem FamilyState.ready (state : FamilyState family intent unlocked eligible db)
    (tables : CreditTables db) (observes : family.Observes intent observation)
    (timely : Bool) :
    ∃ entry stored, storeReceipt (xmrId intent.id) observation.amount.atomicUnits observation
        timely (findReceipt (xmrId intent.id) observation.receiptKey db) db =
          .ok (entry, stored) ∧
      FamilyState family intent (observation.unlocks unlocked) eligible
        (readied observation entry stored) := by
  cases search : findReceipt (xmrId intent.id) observation.receiptKey db with
  | some entry =>
      rcases findReceipt_eq_some search with ⟨member, sameId, sameKey⟩
      refine ⟨entry.1, db, rfl, ?_⟩
      unfold readied XmrReceiptObservation.unlocks
      split
      · rw [← sameKey]
        exact state.unlock member sameId
      · exact state
  | none =>
      rcases observes.valid with ⟨_, valid⟩
      have absent : ∀ entry ∈ db.assetReceipts.entries,
          entry.2.valuationId = xmrId intent.id →
            entry.2.receiptKey ≠ observation.receiptKey := by
        intro entry member sameId sameKey
        have unmatched := List.find?_eq_none.mp search entry member
        simp [sameId, sameKey] at unmatched
      have notUnlocked : observation.receiptKey ∉ unlocked := fun member => by
        rcases state.kept _ member with ⟨entry, stored, sameId, sameKey⟩
        exact absent entry stored sameId sameKey
      let receipt := observation.receipt (xmrId intent.id) timely
      have receiptValid : receipt.Valid := receipt_valid valid _ timely
      have fresh : db.assetReceipts.Fresh receipt := receipt_fresh search timely
      have isUnlocked : receipt.unlocked = true ↔
          receipt.receiptKey ∈ observation.unlocks unlocked := by
        rw [XmrReceiptObservation.mem_unlocks]
        constructor
        · intro isUnlocked
          exact .inr ⟨isUnlocked, rfl⟩
        · rintro (old | ⟨isUnlocked, _⟩)
          · exact absurd old notUnlocked
          · exact isUnlocked
      have inserted := state.insert tables fresh rfl
        (congrArg Nat.cast observes.amount) (congrArg some observes.firstSeen)
        (observation.unlocks unlocked) isUnlocked
        (fun key different => by
          rw [XmrReceiptObservation.mem_unlocks]
          constructor
          · rintro (old | ⟨_, same⟩)
            · exact old
            · exact absurd same different
          · exact .inl) notUnlocked
      refine ⟨db.assetReceipts.nextRowid,
        { db with assetReceipts := db.assetReceipts.insert receipt fresh }, ?_, ?_⟩
      · simp only [storeReceipt, bind_eq_ok, pure_eq_ok, Prod.exists, insertRow_eq_ok,
          Prod.mk.injEq]
        exact ⟨_, _, ⟨receiptValid, rfl, fresh, rfl⟩, rfl, rfl⟩
      · unfold readied
        split
        · rename_i nowUnlocked
          have same : Insert.insert receipt.receiptKey (observation.unlocks unlocked) =
              observation.unlocks unlocked :=
            Finset.insert_eq_self.mpr (isUnlocked.mp nowUnlocked)
          have unlockedState := inserted.unlock (Table.mem_entries_insert_new fresh) rfl
          rw [same] at unlockedState
          exact unlockedState
        · exact inserted

/-! ## Granting -/

theorem FamilyState.grant (state : FamilyState family intent unlocked eligible db)
    {receiptId : Nat} {receipt : AssetReceipt} {update : CreditUpdate}
    (isStored : (receiptId, receipt) ∈ db.assetReceipts.entries)
    (isUnlocked : receipt.receiptKey ∈ unlocked) (isNew : receipt.receiptKey ∉ eligible)
    (grants : GrantsDust intent.id receiptId update db after ∨
      GrantsSats intent.id receiptId update db after) :
    FamilyState family intent unlocked (Insert.insert receipt.receiptKey eligible) after := by
  have granted : ∃ (valuation : Valuation) (allocation : AllocationRow)
      (stored : AssetReceipt) (terms : CreditTerms) (entryId seq : Option Nat),
      GrantDue db intent.id valuation allocation receiptId stored terms update ∧
      after.creditValuations = db.creditValuations ∧ after.assetReceipts = db.assetReceipts ∧
      (∃ fresh, after.creditGrants =
        db.creditGrants.insert (update.grant receiptId entryId seq) fresh) ∧
      after.creditAllocations = update.allocations (xmrId intent.id) db := by
    rcases grants with dust | sats
    · cases dust with
      | intro due _ fresh => exact ⟨_, _, _, _, _, _, due, rfl, rfl, ⟨fresh, rfl⟩, rfl⟩
    · cases sats with
      | intro due _ _ _ _ fresh => exact ⟨_, _, _, _, _, _, due, rfl, rfl, ⟨fresh, rfl⟩, rfl⟩
  rcases granted with ⟨valuation, prior, stored, terms, entryId, seq, due, valuations, receipts,
    ⟨fresh, isGranted⟩, allocations⟩
  have sameReceipt : stored = receipt := db.assetReceipts.row_unique due.stored isStored
  subst sameReceipt
  rcases state.account with ⟨allocation, allocated, sameId, free, isTotal⟩
  have sameAllocation : prior = allocation :=
    db.creditAllocations.row_eq_of_clash due.allocated allocated
      (sameKey_iff.mpr ⟨_, rfl, by rw [sameId, due.allocatedId]⟩)
  subst sameAllocation
  have storedFacts := state.stored _ isStored due.storedId
  refine ⟨by rw [valuations]; exact state.valued, ?_, ?_, ?_, ?_⟩
  · refine ⟨prior.setWatermarks (xmrId intent.id) update.cumulativeEligible.atomicUnits
      update.cumulativeCreditSats, ?_, by simpa using sameId, ?_, ?_⟩
    · rw [allocations, CreditUpdate.allocations, Table.rows_update]
      exact List.mem_map_of_mem allocated
    · rw [AllocationRow.setWatermarks, if_pos sameId]
      exact free
    · have newTotal := due.eligible
      rw [isTotal, storedFacts.amount] at newTotal
      rw [AllocationRow.setWatermarks, if_pos sameId, ReceiptFamily.total,
        Finset.sum_insert isNew]
      refine newTotal.trans ?_
      rw [ReceiptFamily.total]
      push_cast
      omega
  · rw [receipts]
    intro entry member sameValuation
    have facts := state.stored entry member sameValuation
    refine { facts with granted := ?_ }
    rw [isGranted, Finset.mem_insert, ← facts.granted]
    constructor
    · rintro ⟨grant, grantMember, same⟩
      rcases (Table.mem_rows_insert fresh).mp grantMember with old | rfl
      · exact .inr ⟨grant, old, same⟩
      · have isEntry : (receiptId, entry.2) ∈ db.assetReceipts.entries := by
          rw [show receiptId = entry.1 from same]
          exact member
        exact .inl (congrArg AssetReceipt.receiptKey
          (db.assetReceipts.row_unique isEntry isStored))
    · rintro (sameKey | ⟨grant, old, same⟩)
      · have isEntry := receipt_unique member isStored sameValuation due.storedId sameKey
        exact ⟨_, Table.mem_rows_insert_new fresh, by rw [isEntry]; rfl⟩
      · exact ⟨grant, Table.mem_rows_insert_old fresh old, same⟩
  · rw [receipts]
    exact state.kept
  · intro key member
    rcases Finset.mem_insert.mp member with rfl | old
    · exact isUnlocked
    · exact state.within old

end Family

end LightningGoats
