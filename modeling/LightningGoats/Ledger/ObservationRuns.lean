import Mathlib.Data.Finset.Dedup
import LightningGoats.Ledger.Observations

/-! # Any order of observations -/

namespace LightningGoats

open Outcome Relational

/-! ## The observations of a run -/

def LedgerLabel.unlockedKey (intentId : Uuid) (label : LedgerLabel) : Option String :=
  match label.call with
  | .recordXmrReceipt id observation =>
      if id = intentId ∧ observation.unlocked = true then some observation.receiptKey else none
  | _ => none

def unlockedKeys (intentId : Uuid) (labels : List LedgerLabel) : Finset String :=
  (labels.filterMap (LedgerLabel.unlockedKey intentId)).toFinset

section UnlockedKeys

variable {intentId : Uuid} {labels : List LedgerLabel} {label : LedgerLabel}

theorem unlockedKeys_mono {front back : List LedgerLabel} :
    unlockedKeys intentId front ⊆ unlockedKeys intentId (front ++ back) := by
  intro key member
  simp only [unlockedKeys, List.mem_toFinset, List.filterMap_append, List.mem_append] at member ⊢
  exact .inl member

theorem unlockedKeys_concat_none (silent : label.unlockedKey intentId = none) :
    unlockedKeys intentId (labels ++ [label]) = unlockedKeys intentId labels := by
  simp [unlockedKeys, silent]

theorem unlockedKeys_concat_receipt {observation : XmrReceiptObservation}
    (isCall : label.call = .recordXmrReceipt intentId observation) :
    unlockedKeys intentId (labels ++ [label]) =
      observation.unlocks (unlockedKeys intentId labels) := by
  ext key
  rw [XmrReceiptObservation.mem_unlocks]
  simp only [unlockedKeys, List.mem_toFinset, List.filterMap_append, List.mem_append]
  refine or_congr Iff.rfl ?_
  by_cases isUnlocked : observation.unlocked = true
  · simp [LedgerLabel.unlockedKey, isCall, isUnlocked]
  · simp [LedgerLabel.unlockedKey, isCall, isUnlocked]

end UnlockedKeys

namespace ReceiptFamily

variable {family : ReceiptFamily} {intent : XmrCreditIntent} {labels : List LedgerLabel}

def eligibleTotal (family : ReceiptFamily) (intent : XmrCreditIntent)
    (labels : List LedgerLabel) : Nat :=
  family.total (family.eligible intent (unlockedKeys intent.id labels))

theorem eligibleTotal_mono {front back : List LedgerLabel} :
    family.eligibleTotal intent front ≤ family.eligibleTotal intent (front ++ back) :=
  Finset.sum_le_sum_of_subset (Finset.filter_subset_filter _ unlockedKeys_mono)

/-- The observations of the intent are those of the family, in an order in which
no key is locked again, and nothing else holds the intent. -/
structure Consistent (family : ReceiptFamily) (intent : XmrCreditIntent)
    (labels : List LedgerLabel) : Prop where
  observes : ∀ label ∈ labels, ∀ observation,
    label.call = .recordXmrReceipt intent.id observation → family.Observes intent observation
  staysUnlocked : ∀ front label back observation, labels = front ++ label :: back →
    label.call = .recordXmrReceipt intent.id observation →
      observation.receiptKey ∈ unlockedKeys intent.id front → observation.unlocked = true
  notHeld : ∀ label ∈ labels, label.call ≠ .holdXmrCreditIntent intent.id

theorem Consistent.initial {front back : List LedgerLabel}
    (consistent : family.Consistent intent (front ++ back)) :
    family.Consistent intent front where
  observes label member := consistent.observes label (List.mem_append_left _ member)
  staysUnlocked earlier label later observation split :=
    consistent.staysUnlocked earlier label (later ++ back) observation (by simp [split])
  notHeld label member := consistent.notHeld label (List.mem_append_left _ member)

end ReceiptFamily

/-- A run after the registration of an intent that delivers consistent
observations of it among any other traffic, within the three limits. -/
structure ObservationRun [SerdeJson] (family : ReceiptFamily) (intent : XmrCreditIntent)
    (opened : Db) (labels : List LedgerLabel) (db : Db) : Prop where
  opens : ∃ earlier source now, LedgerRun Db.fresh earlier source ∧
    (∀ valuation ∈ source.creditValuations.rows, valuation.id ≠ xmrId intent.id) ∧
    LedgerStep source ⟨.registerXmrCreditIntent intent, now, .ok .done⟩ opened
  run : LedgerRun opened labels db
  consistent : family.Consistent intent labels
  fits : family.eligibleTotal intent labels ≤ maxAccountingUnits
  worthy : family.eligibleTotal intent labels * intent.quote.terms.targetSats /
    intent.quote.terms.expectedAtomic ≤ intent.maxCreditSats
  room : ∀ front label back before, labels = front ++ label :: back →
    LedgerRun opened front before →
      creditTotal before + (intent.quote.terms.value
          (family.eligibleTotal intent (front ++ [label])) -
        intent.quote.terms.value (family.eligibleTotal intent front)) ≤ maxI64

section Runs

variable [SerdeJson] {family : ReceiptFamily} {intent : XmrCreditIntent}
  {labels front back : List LedgerLabel} {label : LedgerLabel} {opened before after db : Db}

theorem ObservationRun.value_le (observations : ObservationRun family intent opened labels db) :
    intent.quote.terms.value (family.eligibleTotal intent labels) ≤ intent.maxCreditSats := by
  rw [CreditTerms.value_natCast]
  exact Int.ofNat_le.mpr observations.worthy

theorem ObservationRun.initial (observations : ObservationRun family intent opened
    (front ++ back) db) (run : LedgerRun opened front before) :
    ObservationRun family intent opened front before where
  opens := observations.opens
  run := run
  consistent := observations.consistent.initial
  fits := Nat.le_trans ReceiptFamily.eligibleTotal_mono observations.fits
  worthy := Nat.le_trans (Nat.div_le_div_right (Nat.mul_le_mul_right _
    ReceiptFamily.eligibleTotal_mono)) observations.worthy
  room earlier label later source split :=
    observations.room earlier label (later ++ back) source (by simp [split])

theorem ObservationRun.reached (observations : ObservationRun family intent opened labels db) :
    ∃ all, LedgerRun Db.fresh all db := by
  rcases observations.opens with ⟨earlier, source, now, first, _, registers⟩
  exact ⟨_, first.append (.cons registers observations.run)⟩

theorem familyState_opened {source : Db} {now : Int} (sound : CreditSound source)
    (unregistered : ∀ valuation ∈ source.creditValuations.rows,
      valuation.id ≠ xmrId intent.id)
    (registers : LedgerStep source ⟨.registerXmrCreditIntent intent, now, .ok .done⟩ opened) :
    FamilyState family intent ∅ ∅ opened := by
  rcases ledgerStep_cases registers with ⟨_, failed, _⟩ | ⟨_, _, ran⟩
  · cases failed
  · simp only [LedgerCall.body, transact_eq_ok] at ran
    rcases ran with ⟨_, registered, _⟩
    rcases registerXmrCreditIntent_cases registered with ⟨_, valued⟩ | isNew
    · exact absurd rfl (unregistered _ valued)
    · cases isNew with
      | intro _ valuationFresh allocationFresh =>
        refine ⟨Table.mem_rows_insert_new valuationFresh,
          ⟨_, Table.mem_rows_insert_new allocationFresh, rfl, rfl, by
            simp [ReceiptFamily.total]⟩, ?_, by simp, Finset.Subset.refl _⟩
        intro entry member sameId
        rcases sound.tables.received entry.2 (Table.mem_rows_of_mem_entries member) with
          ⟨valuation, valued, owner⟩
        exact absurd (owner.trans sameId) (unregistered valuation valued)

theorem FamilyState.step
    (observations : ObservationRun family intent opened (labels ++ [label]) after)
    (run : LedgerRun opened labels before)
    (state : FamilyState family intent (unlockedKeys intent.id labels)
      (family.eligible intent (unlockedKeys intent.id labels)) before)
    (step : LedgerStep before label after) :
    FamilyState family intent (unlockedKeys intent.id (labels ++ [label]))
        (family.eligible intent (unlockedKeys intent.id (labels ++ [label]))) after ∧
      ∀ observation, label.call = .recordXmrReceipt intent.id observation →
        ∃ outcome, label.result = .ok (.receipt outcome) := by
  rcases (observations.initial run).reached with ⟨_, reached⟩
  have member : label ∈ labels ++ [label] := List.mem_append_right _ List.mem_cons_self
  by_cases isReceipt : ∃ observation, label.call = .recordXmrReceipt intent.id observation
  · rcases isReceipt with ⟨observation, isCall⟩
    have unlocks := @unlockedKeys_concat_receipt intent.id labels label observation isCall
    have fits := observations.fits
    have worthy := observations.value_le
    have room := observations.room labels label [] before rfl run
    rw [ReceiptFamily.eligibleTotal, unlocks] at fits worthy room
    rw [unlocks]
    rcases state.deliver (Books.of_run reached) (CreditSound.of_run reached)
      (observations.consistent.observes label member observation isCall)
      (observations.consistent.staysUnlocked labels label [] observation rfl isCall)
      fits worthy room with ⟨outcome, target, delivered, next⟩
    have executed : execute label.call label.now before = (label.result, after) := step
    simp only [isCall, execute, LedgerCall.body, transact, delivered] at executed
    rw [Prod.mk.injEq] at executed
    rcases executed with ⟨isResult, rfl⟩
    exact ⟨next, fun _ _ => ⟨outcome, isResult.symm⟩⟩
  · have silent : label.unlockedKey intent.id = none := by
      unfold LedgerLabel.unlockedKey
      split
      · rename_i id observation isCall
        refine if_neg fun both => isReceipt ⟨observation, ?_⟩
        rw [isCall, both.1]
      · rfl
    refine ⟨?_, fun observation isCall => absurd ⟨observation, isCall⟩ isReceipt⟩
    rw [unlockedKeys_concat_none silent]
    by_cases isIntent : label.call.scope = .intent intent.id
    · rcases ledgerStep_cases step with ⟨_, _, rfl⟩ | ⟨response, -, ran⟩
      · exact state
      rcases label with ⟨call, now, result⟩
      cases call
      case registerXmrCreditIntent other =>
        simp only [LedgerCall.body, transact_eq_ok] at ran
        rcases ran with ⟨_, registered, _⟩
        have sameId : other.id = intent.id := Scope.intent.inj isIntent
        rcases registerXmrCreditIntent_cases registered with ⟨rfl, _⟩ | isNew
        · exact state
        · cases isNew with
          | intro _ valuationFresh _ =>
            refine absurd (.inl (sameKey_iff.mpr ⟨_, rfl, ?_⟩))
              (valuationFresh _ state.valued)
            exact congrArg (fun id => some (xmrId id)) sameId
      case recordXmrReceipt id observation =>
        have sameId : id = intent.id := Scope.intent.inj isIntent
        exact absurd ⟨observation, by rw [sameId]⟩ isReceipt
      case holdXmrCreditIntent id =>
        have sameId : id = intent.id := Scope.intent.inj isIntent
        exact absurd (by rw [sameId]) (observations.consistent.notHeld _ member)
      all_goals cases isIntent
    · exact state.of_same ((ledgerStep_effect step).sameAccount isIntent)

theorem ObservationRun.state (observations : ObservationRun family intent opened labels db) :
    FamilyState family intent (unlockedKeys intent.id labels)
        (family.eligible intent (unlockedKeys intent.id labels)) db ∧
      ∀ label ∈ labels, ∀ observation, label.call = .recordXmrReceipt intent.id observation →
        ∃ outcome, label.result = .ok (.receipt outcome) := by
  induction labels using List.reverseRecOn generalizing db with
  | nil =>
      rcases observations.opens with ⟨_, _, _, first, unregistered, registers⟩
      have isOpened := Execution.Run.nil_iff.mp observations.run
      subst isOpened
      exact ⟨familyState_opened (CreditSound.of_run first) unregistered registers,
        fun _ member => absurd member List.not_mem_nil⟩
  | append_singleton labels label induction =>
      rcases Execution.Run.append_iff.mp observations.run with ⟨middle, first, last⟩
      rcases Execution.Run.cons_iff.mp last with ⟨target, step, rest⟩
      have isEnd := Execution.Run.nil_iff.mp rest
      subst isEnd
      rcases induction (observations.initial first) with ⟨state, succeeded⟩
      rcases state.step observations first step with ⟨next, lastSucceeded⟩
      refine ⟨next, fun delivery member => ?_⟩
      rcases List.mem_append.mp member with old | isLast
      · exact succeeded delivery old
      · rw [List.mem_singleton.mp isLast]
        exact lastSucceeded

end Runs

theorem ObservationRun.allocation [SerdeJson] {family : ReceiptFamily}
    {intent : XmrCreditIntent} {labels : List LedgerLabel} {opened db : Db}
    (observations : ObservationRun family intent opened labels db) :
    let credited := family.eligibleTotal intent labels * intent.quote.terms.targetSats /
      intent.quote.terms.expectedAtomic
    (∃ allocation, (db.creditAllocations.rows.filter fun row =>
        row.valuationId = xmrId intent.id) = [allocation] ∧ allocation.holdReason = none) ∧
      xmrCreditAllocation intent.id db =
        .ok ⟨family.eligibleTotal intent labels, credited, none⟩ ∧
      (grantedDeltas (xmrId intent.id) db).sum = credited := by
  intro credited
  rcases observations.reached with ⟨_, reached⟩
  rcases observations.state with ⟨state, _⟩
  rcases state.account with ⟨allocation, allocated, sameId, free, isTotal⟩
  have account := (CreditSound.of_run reached).accounts intent state.valued allocation allocated
    sameId
  have worth : allocation.creditedSats = credited := by
    rw [account.worth, isTotal, CreditTerms.value_natCast]
    rfl
  have read : allocation.read =
      ⟨family.eligibleTotal intent labels, credited, none⟩ := by
    rw [AllocationRow.read, isTotal, worth, free]
    rfl
  refine ⟨⟨allocation, ?_, free⟩, ?_, by rw [← account.deltas, worth]⟩
  · refine filter_eq_singleton (db.creditAllocations.rows_nodup fun _ => sameKey_iff.mpr
      ⟨_, rfl, rfl⟩) allocated (by simpa using sameId) fun other otherMember otherSame => ?_
    exact db.creditAllocations.row_eq_of_clash otherMember allocated
      (sameKey_iff.mpr ⟨_, rfl, by rw [sameId, ← decide_eq_true_eq.mp otherSame]⟩)
  · rw [← read]
    exact allocationInTx_eq allocated sameId account.nonneg account.credited_nonneg

/-- However the observations of an intent are ordered, repeated and interleaved with
other traffic, each is accepted, no hold is ever set, and the credit granted in the
end is the value of the timely unlocked total alone. -/
theorem xmr_credit_order_free [SerdeJson] {family : ReceiptFamily} {intent : XmrCreditIntent}
    {labels : List LedgerLabel} {opened db : Db}
    (observations : ObservationRun family intent opened labels db) :
    let eligible := family.eligibleTotal intent labels
    let credited := eligible * intent.quote.terms.targetSats / intent.quote.terms.expectedAtomic
    (∀ label ∈ labels, ∀ observation, label.call = .recordXmrReceipt intent.id observation →
      ∃ outcome, label.result = .ok (.receipt outcome)) ∧
    (∀ front back middle, labels = front ++ back → LedgerRun opened front middle →
      ∃ allocation, (middle.creditAllocations.rows.filter fun row =>
        row.valuationId = xmrId intent.id) = [allocation] ∧ allocation.holdReason = none) ∧
    xmrCreditAllocation intent.id db = .ok ⟨eligible, credited, none⟩ ∧
    (grantedDeltas (xmrId intent.id) db).sum = credited ∧
    (eligible = intent.quote.terms.expectedAtomic →
      credited = intent.quote.terms.targetSats) ∧
    ∀ otherFamily otherOpened otherLabels otherDb,
      ObservationRun otherFamily intent otherOpened otherLabels otherDb →
      otherFamily.eligibleTotal intent otherLabels = eligible →
        xmrCreditAllocation intent.id otherDb = xmrCreditAllocation intent.id db ∧
        (grantedDeltas (xmrId intent.id) otherDb).sum =
          (grantedDeltas (xmrId intent.id) db).sum := by
  intro eligible credited
  rcases observations.allocation with ⟨_, read, deltas⟩
  refine ⟨observations.state.2, ?_, read, deltas, ?_, ?_⟩
  · rintro front back middle rfl first
    exact (observations.initial first).allocation.1
  · intro whole
    simp only [credited, whole]
    exact Nat.mul_div_cancel_left _ intent.quote.terms.expectedPositive
  · intro otherFamily otherOpened otherLabels otherDb others sameTotal
    rcases others.allocation with ⟨_, otherRead, otherDeltas⟩
    rw [sameTotal] at otherRead otherDeltas
    exact ⟨otherRead.trans read.symm, otherDeltas.trans deltas.symm⟩

/-- Receipts of 3 and 2 piconero, the first delivered twice and a payment in between. -/
def exampleFamily : ReceiptFamily where
  amount key := if key = "a" then 3 else 2
  firstSeenAt _ := 12

def exampleDeliveries : List (LedgerCall × Int) :=
  [(.recordXmrReceipt ⟨1⟩ (exampleObservation "a" threePiconero), 12),
    (.recordPayment examplePayment, 13),
    (.recordXmrReceipt ⟨1⟩ (exampleObservation "b" twoPiconero), 14),
    (.recordXmrReceipt ⟨1⟩ (exampleObservation "a" threePiconero), 15)]

def exampleOpened : Db :=
  @replay exampleJson [(.registerXmrCreditIntent exampleIntent, 11)] Db.fresh

theorem exampleConsistent : exampleFamily.Consistent exampleIntent
    (@labelsOf exampleJson exampleDeliveries exampleOpened) where
  observes := by
    intro label member observation isCall
    have isDelivery : ∃ key amount, observation = exampleObservation key amount ∧
        (key = "a" ∧ amount = threePiconero ∨ key = "b" ∧ amount = twoPiconero) := by
      simp only [exampleDeliveries, labelsOf, List.mem_cons, List.not_mem_nil, or_false] at member
      rcases member with rfl | rfl | rfl | rfl <;> cases isCall
      · exact ⟨_, _, rfl, .inl ⟨rfl, rfl⟩⟩
      · exact ⟨_, _, rfl, .inr ⟨rfl, rfl⟩⟩
      · exact ⟨_, _, rfl, .inl ⟨rfl, rfl⟩⟩
    rcases isDelivery with ⟨_, _, rfl, ⟨rfl, rfl⟩ | ⟨rfl, rfl⟩⟩
    · exact ⟨⟨3, by decide +kernel⟩, by decide +kernel, rfl, rfl, rfl⟩
    · exact ⟨⟨2, by decide +kernel⟩, by decide +kernel, by decide +kernel, rfl, rfl⟩
  staysUnlocked := by
    intro front label back observation split isCall _
    have member : label ∈ @labelsOf exampleJson exampleDeliveries exampleOpened := by
      rw [split]
      exact List.mem_append_right _ List.mem_cons_self
    simp only [exampleDeliveries, labelsOf, List.mem_cons, List.not_mem_nil, or_false] at member
    rcases member with rfl | rfl | rfl | rfl <;> cases isCall <;> rfl
  notHeld := by
    intro label member isCall
    simp only [exampleDeliveries, labelsOf, List.mem_cons, List.not_mem_nil, or_false] at member
    rcases member with rfl | rfl | rfl | rfl <;> cases isCall

theorem xmr_credit_order_free_example :
    xmrCreditAllocation ⟨1⟩ (@replay exampleJson exampleDeliveries exampleOpened) =
      .ok ⟨5, 2, none⟩ := by
  have observations : @ObservationRun exampleJson exampleFamily exampleIntent exampleOpened
      (@labelsOf exampleJson exampleDeliveries exampleOpened)
      (@replay exampleJson exampleDeliveries exampleOpened) := by
    refine @ObservationRun.mk exampleJson _ _ _ _ _
      ⟨[], Db.fresh, 11, .nil _, by simp [Db.fresh], rfl⟩
      (@replay_run exampleJson _ _) exampleConsistent (by decide +kernel) (by decide +kernel) ?_
    intro front label back before split run
    rw [@run_replay exampleJson _ _ _ run]
    simp only [exampleDeliveries, labelsOf] at split
    rcases front with _ | ⟨_, _ | ⟨_, _ | ⟨_, _ | ⟨_, front⟩⟩⟩⟩
    all_goals simp only [List.nil_append, List.cons_append, List.cons.injEq] at split
    · rcases split with ⟨rfl, rfl⟩
      decide +kernel
    · rcases split with ⟨rfl, rfl, rfl⟩
      decide +kernel
    · rcases split with ⟨rfl, rfl, rfl, rfl⟩
      decide +kernel
    · rcases split with ⟨rfl, rfl, rfl, rfl, rfl⟩
      decide +kernel
    · simp at split
  have total : exampleFamily.eligibleTotal exampleIntent
      (@labelsOf exampleJson exampleDeliveries exampleOpened) = 5 := by decide +kernel
  have final := (@xmr_credit_order_free exampleJson _ _ _ _ _ observations).2.2.1
  rw [total] at final
  exact final

end LightningGoats
