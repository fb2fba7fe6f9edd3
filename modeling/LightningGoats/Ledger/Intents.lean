import LightningGoats.Domain.Pricing
import LightningGoats.Ledger.CreditTables

/-! # Registered intents

An intent is read back by repricing its stored rate evidence, and comes back as
it was registered: whatever happens later, and whoever registers what.
-/

namespace LightningGoats

open Outcome Relational Text

/-! ## Reading an intent -/

/-- Why a stored intent is not returned. A rate whose text is not a 64-bit integer is
refused with the integer parser's own message. -/
inductive StoredIntentError
  | ledger (error : LedgerError)
  | missing (term : String)
  | malformedRate
  | ratioMismatch
  | unsupportedNetwork
  deriving DecidableEq, Repr

def liftStored {α : Type} (outcome : Except LedgerError α) : Except StoredIntentError α :=
  outcome.mapError .ledger

def XmrNetwork.ofStr : String → Option XmrNetwork
  | "mainnet" => some mainnet
  | "testnet" => some testnet
  | "stagenet" => some stagenet
  | _ => none

@[simp] theorem XmrNetwork.ofStr_asStr (network : XmrNetwork) :
    ofStr network.asStr = some network := by
  cases network <;> rfl

theorem XmrNetwork.asStr_injective {left right : XmrNetwork}
    (same : left.asStr = right.asStr) : left = right := by
  have read := congrArg ofStr same
  simpa using read

def maxU64 : Nat := 2 ^ 64 - 1

def storedRate (row : Valuation) : Except StoredIntentError XmrBtcRate := do
  let numeratorText ← require row.rateNumerator (.missing "rate")
  let numerator ← require (parseU64 numeratorText) .malformedRate
  let denominatorText ← require row.rateDenominator (.missing "rate")
  let denominator ← require (parseU64 denominatorText) .malformedRate
  let source ← require row.rateSource (.missing "rate source")
  let observedAt ← require row.rateObservedAt (.missing "rate time")
  liftStored (liftCredit (XmrBtcRate.new numerator denominator source observedAt))

/-- Reconstruct previously validated evidence, without repricing it at another rate. -/
def storedQuote (row : Valuation) : Except StoredIntentError XmrQuote := do
  let rate ← storedRate row
  let target ← liftStored (toU64 row.targetSats "target")
  let issuedAt ← require row.issuedAt (.missing "issue time")
  let expiresAt ← require row.expiresAt (.missing "expiry")
  let quote ← liftStored (liftCredit (rate.quote target issuedAt expiresAt maxU64))
  let expected ← liftStored (toU64 row.expectedAtomic "quoted amount")
  ensure (quote.terms.expectedAtomic = expected) .ratioMismatch
  return quote

def xmrCreditIntent (intentId : Uuid) (db : Db) : Except StoredIntentError XmrCreditIntent := do
  let row ← liftStored (require
    (db.creditValuations.rows.find? fun row => row.id = xmrId intentId && row.asset = .xmr)
    .unknownIntent)
  liftStored (ensure (row.policyVersion = xmrPolicy) .unsupportedPolicy)
  let quote ← storedQuote row
  let network ← require (XmrNetwork.ofStr row.network) .unsupportedNetwork
  let maxCreditSats ← liftStored (toU64 row.maxCreditSats "credit limit")
  return {
    id := intentId
    provider := row.provider
    network := network
    accountScope := row.accountScope
    receiveScope := row.receiveScope
    addressUser := row.addressUser
    creditPool := row.creditPool
    quote := quote
    maxCreditSats := maxCreditSats }

/-! ## Reading what was registered -/

@[simp] theorem liftStored_ok {α : Type} {value : α} :
    liftStored (.ok value) = .ok value := rfl

/-- The rate was made from two integers that passed the checks of a rate. -/
def XmrBtcRate.Made (rate : XmrBtcRate) : Prop :=
  ∃ numerator denominator,
    XmrBtcRate.new numerator denominator rate.source rate.observedAt = .ok rate

theorem XmrBtcRate.Made.sourceValid {rate : XmrBtcRate} (made : rate.Made) :
    (XmrBtcRate.new 1 1 rate.source 0).isOk = true := by
  rcases made with ⟨numerator, denominator, built⟩
  unfold XmrBtcRate.new at built ⊢
  split at built
  · split at built
    · cases built
    · rename_i wellFormed
      rw [dif_pos (by decide), if_neg wellFormed, dif_pos le_rfl]
      rfl
  · cases built

theorem XmrQuote.requote {quote : XmrQuote} (issued : quote.issuedAt ≤ maxI64) :
    quote.rate.quote quote.terms.targetSats quote.issuedAt quote.expiresAt maxU64 =
      .ok quote := by
  have nonneg := quote.issuedNonneg
  have observed := quote.rate.observedNonneg
  refine quote_eq_ok.mpr ⟨⟨quote.terms.targetPositive, quote.terms.targetBounded, nonneg,
    quote.ordered, by decide, quote.observedBefore, ?_⟩, quote.priced, rfl, rfl, rfl, rfl⟩
  unfold maxI64 maxAccountingUnits at issued
  unfold maxU64
  omega

theorem storedRate_stored {intent : XmrCreditIntent} (made : intent.quote.rate.Made) :
    storedRate intent.stored = .ok intent.quote.rate := by
  rcases rate_of_texts made.sourceValid with ⟨numerator, isNumerator, denominator,
    isDenominator, built⟩
  unfold storedRate
  simp only [XmrCreditIntent.stored, XmrCreditIntent.valuation, bind_eq_ok, require_eq_ok,
    Option.some.injEq]
  refine ⟨_, rfl, numerator, isNumerator, _, rfl, denominator, isDenominator, _, rfl, _, rfl, ?_⟩
  rw [built]
  rfl

theorem storedQuote_stored {intent : XmrCreditIntent} (made : intent.quote.rate.Made)
    (issued : intent.quote.issuedAt ≤ maxI64) :
    storedQuote intent.stored = .ok intent.quote := by
  have target : toU64 intent.stored.targetSats "target" = .ok intent.quote.terms.targetSats :=
    toU64_eq_ok.mpr (by simp [XmrCreditIntent.stored, XmrCreditIntent.valuation])
  have expected : toU64 intent.stored.expectedAtomic "quoted amount" =
      .ok intent.quote.terms.expectedAtomic :=
    toU64_eq_ok.mpr (by simp [XmrCreditIntent.stored, XmrCreditIntent.valuation])
  unfold storedQuote
  rw [storedRate_stored made, target, expected]
  refine bind_eq_ok.mpr ⟨_, rfl, bind_eq_ok.mpr ⟨_, rfl, bind_eq_ok.mpr ⟨_, rfl,
    bind_eq_ok.mpr ⟨_, rfl, bind_eq_ok.mpr ⟨intent.quote, ?_, ?_⟩⟩⟩⟩⟩
  · rw [XmrQuote.requote issued]
    rfl
  · exact bind_eq_ok.mpr ⟨_, rfl, bind_eq_ok.mpr ⟨.unit, ensure_of rfl, rfl⟩⟩

theorem xmrCreditIntent_of_stored {intent : XmrCreditIntent} {db : Db}
    (member : intent.stored ∈ db.creditValuations.rows) (made : intent.quote.rate.Made)
    (issued : intent.quote.issuedAt ≤ maxI64) :
    xmrCreditIntent intent.id db = .ok intent := by
  have found : (db.creditValuations.rows.find? fun row =>
      row.id = xmrId intent.id && row.asset = .xmr) = some intent.stored := by
    refine db.creditValuations.find?_eq_some_of_clash _ member ?_ ?_
    · simp [XmrCreditIntent.stored, XmrCreditIntent.valuation]
    · intro left right isLeft isRight
      simp only [Bool.and_eq_true, decide_eq_true_eq] at isLeft isRight
      exact .inl (sameKey_iff.mpr ⟨xmrId intent.id, congrArg some isLeft.1,
        congrArg some isRight.1⟩)
  have limit : toU64 intent.stored.maxCreditSats "credit limit" = .ok intent.maxCreditSats :=
    toU64_eq_ok.mpr (by simp [XmrCreditIntent.stored, XmrCreditIntent.valuation])
  unfold xmrCreditIntent
  rw [found]
  refine bind_eq_ok.mpr ⟨_, rfl, bind_eq_ok.mpr ⟨.unit, ?_, bind_eq_ok.mpr
    ⟨_, storedQuote_stored made issued, bind_eq_ok.mpr ⟨intent.network, ?_, ?_⟩⟩⟩⟩
  · rfl
  · exact require_eq_ok.mpr (XmrNetwork.ofStr_asStr intent.network)
  · rw [limit]
    rfl

/-! ## Registering it again -/

/-- The checks of an intent that registration makes before it looks at the database. -/
structure XmrCreditIntent.Checked (intent : XmrCreditIntent) : Prop where
  notNil : intent.id.isNil = false
  provider : validateSource intent.provider = .ok ()
  accountScope : validateExternalId intent.accountScope "account scope" 256 = .ok ()
  receiveScope : validateExternalId intent.receiveScope "receive scope" 256 = .ok ()
  addressUser : validateUser intent.addressUser "address_user" = .ok ()
  creditPool : intent.creditPool = "herd"
  limited : intent.Limited

theorem registerXmrCreditIntent_eq_ok {intent : XmrCreditIntent} {before after : Db} :
    registerXmrCreditIntent intent before = .ok ((), after) ↔
      intent.Checked ∧
        match before.creditValuations.rows.find? fun row => row.id = intent.stored.id with
        | some existing => existing = intent.stored ∧ after = before
        | none => intent.stored.insert before = .ok after := by
  have expected : toI64 intent.quote.terms.expectedAtomic "quoted amount" =
      .ok (intent.quote.terms.expectedAtomic : Int) :=
    toI64_eq_ok.mpr ⟨intent.quote.terms.expectedBounded, rfl⟩
  have target : toI64 intent.quote.terms.targetSats "quoted credit" =
      .ok (intent.quote.terms.targetSats : Int) :=
    toI64_eq_ok.mpr ⟨intent.quote.terms.targetBounded, rfl⟩
  simp only [registerXmrCreditIntent, registerXmrIntentInTransaction, bind_eq_ok,
    ensure_eq_ok, pure_eq_ok, Prod.mk.injEq, true_and]
  constructor
  · rintro ⟨registered, ⟨_, notNil, _, provider, _, account, _, receive, _, user, _, pool, _,
      limited, _, isExpected, _, isTarget, _, isLimit, ran⟩, rfl⟩
    cases expected.symm.trans isExpected
    cases target.symm.trans isTarget
    rcases toI64_eq_ok.mp isLimit with ⟨_, rfl⟩
    refine ⟨⟨notNil, provider, account, receive, user, pool, limited⟩, ?_⟩
    change (match before.creditValuations.rows.find? fun row => row.id = intent.stored.id with
      | some existing => _
      | none => _) = _ at ran
    split at ran
    · rcases bind_eq_ok.mp ran with ⟨_, same, unchanged⟩
      cases unchanged
      exact ⟨ensure_eq_ok.mp same, rfl⟩
    · exact ran
  · rintro ⟨⟨notNil, provider, account, receive, user, pool, limited⟩, ran⟩
    refine ⟨after, ⟨.unit, notNil, _, provider, _, account, _, receive, _, user, .unit, pool, .unit,
      limited, _, expected, _, target, _, toI64_eq_ok.mpr ⟨limited.2, rfl⟩, ?_⟩, rfl⟩
    change (match before.creditValuations.rows.find? fun row => row.id = intent.stored.id with
      | some existing => _
      | none => _) = _
    split at ran
    · rcases ran with ⟨same, rfl⟩
      exact bind_eq_ok.mpr ⟨.unit, ensure_of same, rfl⟩
    · exact ran

theorem stored_of_registers {intent : XmrCreditIntent} {before after : Db}
    (registered : registerXmrCreditIntent intent before = .ok ((), after)) :
    intent.stored ∈ after.creditValuations.rows := by
  rcases registerXmrCreditIntent_cases registered with ⟨rfl, member⟩ | registers
  · exact member
  · cases registers with
    | intro _ valuationFresh => exact Table.mem_rows_insert_new valuationFresh

theorem find_stored {intent : XmrCreditIntent} {db : Db}
    (member : intent.stored ∈ db.creditValuations.rows) :
    (db.creditValuations.rows.find? fun row => row.id = intent.stored.id) =
      some intent.stored := by
  refine db.creditValuations.find?_eq_some_of_clash _ member (by simp) ?_
  intro left right isLeft isRight
  simp only [decide_eq_true_eq] at isLeft isRight
  exact .inl (sameKey_iff.mpr ⟨intent.stored.id, congrArg some isLeft, congrArg some isRight⟩)

theorem stored_injective {left right : XmrCreditIntent} (sameId : left.id = right.id)
    (same : left.stored = right.stored) : left = right := by
  rcases left with ⟨leftId, provider, leftNetwork, account, receive, user, pool, leftQuote, limit⟩
  rcases right with ⟨rightId, _, rightNetwork, _, _, _, _, rightQuote, _⟩
  simp only [XmrCreditIntent.stored, XmrCreditIntent.valuation, Valuation.mk.injEq,
    Option.some.injEq, Int.natCast_inj, true_and, and_true] at same
  rcases same with ⟨_, sameNetwork, rfl, rfl, rfl, rfl, rfl, sameExpected, sameTarget, rfl,
    sameNumerator, sameDenominator, sameSource, sameObserved, sameIssued, sameExpires⟩
  have quotes : leftQuote = rightQuote := by
    rcases leftQuote with ⟨⟨_, _, _⟩, ⟨_, _, _, _⟩, _, _, leftXmr⟩
    rcases rightQuote with ⟨⟨_, _, _⟩, ⟨_, _, _, _⟩, _, _, rightXmr⟩
    cases leftXmr.trans rightXmr.symm
    cases sameExpected
    cases sameTarget
    cases Nat.repr_inj.mp sameNumerator
    cases Nat.repr_inj.mp sameDenominator
    cases sameSource
    cases sameObserved
    cases sameIssued
    cases sameExpires
    rfl
  rw [XmrNetwork.asStr_injective sameNetwork, quotes]
  cases sameId
  rfl

def XmrCreditIntent.SameBinding (left right : XmrCreditIntent) : Prop :=
  left.network = right.network ∧ left.provider = right.provider ∧
    left.accountScope = right.accountScope ∧ left.receiveScope = right.receiveScope

/-- Only the stored intent itself can be registered under its id or at its binding. -/
theorem eq_of_registers {intent other : XmrCreditIntent} {before after : Db}
    (member : intent.stored ∈ before.creditValuations.rows)
    (overlaps : other.id = intent.id ∨ other.SameBinding intent)
    (registered : registerXmrCreditIntent other before = .ok ((), after)) :
    other.stored = intent.stored := by
  have clashes : Valuation.Clash intent.stored other.stored := by
    rcases overlaps with sameId | ⟨network, provider, account, receive⟩
    · exact .inl (sameKey_iff.mpr ⟨xmrId intent.id, rfl,
        congrArg (fun id => some (xmrId id)) sameId⟩)
    · refine .inr (sameKey_iff.mpr ⟨_, rfl, ?_⟩)
      simp only [XmrCreditIntent.stored, XmrCreditIntent.valuation, network, provider, account,
        receive]
  rcases registerXmrCreditIntent_cases registered with ⟨rfl, otherMember⟩ | registers
  · exact (after.creditValuations.row_eq_of_clash member otherMember clashes).symm
  · cases registers with
    | intro _ valuationFresh => exact absurd clashes (valuationFresh _ member)

theorem execute_registers [SerdeJson] {intent : XmrCreditIntent} {now : Int} {before after : Db}
    (registered : registerXmrCreditIntent intent before = .ok ((), after)) :
    execute (.registerXmrCreditIntent intent) now before = (.ok .done, after) := by
  have ran : (LedgerCall.registerXmrCreditIntent intent).body now before =
      .ok (.done, after) := by
    simp only [LedgerCall.body, transact_eq_ok]
    exact ⟨(), registered, trivial⟩
  unfold execute
  rw [ran]

theorem execute_refuses [SerdeJson] {intent : XmrCreditIntent} {now : Int} {db : Db}
    (refused : ∀ after, registerXmrCreditIntent intent db ≠ .ok ((), after)) :
    ∃ error, execute (.registerXmrCreditIntent intent) now db = (.error error, db) := by
  unfold execute
  split
  · rename_i response committed succeeded
    simp only [LedgerCall.body, transact_eq_ok] at succeeded
    rcases succeeded with ⟨_, registered, _⟩
    exact absurd registered (refused committed)
  · rename_i error failed
    exact ⟨error, rfl⟩

theorem stored_of_run [SerdeJson] {before after : Db} {labels : List LedgerLabel}
    {row : Valuation} (run : LedgerRun before labels after)
    (member : row ∈ before.creditValuations.rows) : row ∈ after.creditValuations.rows := by
  induction run with
  | nil => exact member
  | cons step _ induction => exact induction (valuation_of_step step member)

/-- An intent that was registered is returned as it was registered at any later time.
Registering it again changes nothing, and no other intent takes its id or its binding. -/
theorem registered_intents_last [SerdeJson] {intent : XmrCreditIntent}
    {before registered after : Db} {labels : List LedgerLabel} {now : Int}
    {response : LedgerResponse} (made : intent.quote.rate.Made)
    (issued : intent.quote.issuedAt ≤ maxI64)
    (registers : LedgerStep before ⟨.registerXmrCreditIntent intent, now, .ok response⟩
      registered)
    (run : LedgerRun registered labels after) :
    xmrCreditIntent intent.id after = .ok intent ∧
      (∀ later, execute (.registerXmrCreditIntent intent) later after = (.ok .done, after)) ∧
      ∀ other later,
        other.id = intent.id ∧ other ≠ intent ∨
          other.id ≠ intent.id ∧ other.SameBinding intent →
        ∃ error, execute (.registerXmrCreditIntent other) later after = (.error error, after) := by
  have succeeded : registerXmrCreditIntent intent before = .ok ((), registered) := by
    rcases ledgerStep_cases registers with ⟨_, failed, _⟩ | ⟨_, _, ran⟩
    · cases failed
    · simp only [LedgerCall.body, transact_eq_ok] at ran
      rcases ran with ⟨_, ran, _⟩
      exact ran
  have member := stored_of_run run (stored_of_registers succeeded)
  refine ⟨xmrCreditIntent_of_stored member made issued, ?_, ?_⟩
  · intro later
    refine execute_registers (registerXmrCreditIntent_eq_ok.mpr
      ⟨(registerXmrCreditIntent_eq_ok.mp succeeded).1, ?_⟩)
    rw [find_stored member]
    exact ⟨rfl, rfl⟩
  · intro other later differs
    refine execute_refuses fun committed accepted => ?_
    rcases differs with ⟨sameId, different⟩ | ⟨otherId, sameBinding⟩
    · exact different (stored_injective sameId (eq_of_registers member (.inl sameId) accepted))
    · have sameStored := eq_of_registers member (.inr sameBinding) accepted
      exact otherId (xmrId_inj.mp (congrArg Valuation.id sameStored))

def exampleRegistered : Db :=
  @replay exampleJson [(.registerXmrCreditIntent exampleIntent, 11)] Db.fresh

/-- The intent of the example is still returned after a receipt and a hold. -/
theorem registered_intents_last_example :
    ∃ after, xmrCreditIntent ⟨1⟩ after = .ok exampleIntent ∧
      after = @replay exampleJson
        [(.recordXmrReceipt ⟨1⟩ (exampleObservation "a" ⟨.xmr, 3, by decide⟩), 12),
          (.holdXmrCreditIntent ⟨1⟩, 13)] exampleRegistered := by
  let := exampleJson
  have made : exampleIntent.quote.rate.Made := ⟨2 * 1000000000000, 5, by decide⟩
  have registers : LedgerStep Db.fresh ⟨.registerXmrCreditIntent exampleIntent, 11, .ok .done⟩
      exampleRegistered := by
    refine execute_registers (registerXmrCreditIntent_eq_ok.mpr
      ⟨⟨by decide, rfl, rfl, rfl, rfl, rfl, ⟨by decide, by decide⟩⟩, ?_⟩)
    rfl
  exact ⟨_, (registered_intents_last made (by decide) registers (replay_run _ _)).1, rfl⟩

end LightningGoats
