import LightningGoats.Foundation.Outcome
import LightningGoats.Foundation.Watermark

/-! # Asset-tagged amounts and immutable credit terms

The valuation primitives. They observe no wallet and grant no credit: an
adapter passes them cumulative eligible amounts.
-/

namespace LightningGoats

open Outcome

def maxAccountingUnits : Nat := 2 ^ 63 - 1

def piconeroPerXmr : Nat := 1000000000000

inductive CreditError
  | amountRange
  | notNativeBtc
  | quoteNotPositive
  | quoteRange
  | assetMismatch
  | multiplicationOverflow
  | creditRange
  | inconsistentCredit
  | eligibleRegressed
  | creditRegressed
  | rateNotPositive
  | rateSource
  | rateTime
  | quoteTarget
  | quotePolicy
  | rateInFuture
  | rateStale
  | quoteOverflow
  | quotedAmountRange
  deriving DecidableEq, Repr

namespace CreditError

def message : CreditError → String
  | amountRange => "asset amount exceeds accounting storage range"
  | notNativeBtc => "non-BTC amount requires an explicit credit valuation"
  | quoteNotPositive => "quote amount and target credit must be positive"
  | quoteRange => "quote exceeds accounting storage range"
  | assetMismatch => "receipt asset does not match credit terms"
  | multiplicationOverflow => "credit multiplication overflow"
  | creditRange => "valued credit exceeds accounting storage range"
  | inconsistentCredit => "saved credit is inconsistent with the immutable valuation"
  | eligibleRegressed => "eligible receipt total regressed; reconciliation is required"
  | creditRegressed => "valued credit regressed"
  | rateNotPositive => "exchange rate must be positive"
  | rateSource => "rate source must be a bounded source identifier"
  | rateTime => "rate observation time must be nonnegative"
  | quoteTarget => "quote target must be positive and within accounting range"
  | quotePolicy => "invalid quote lifetime or rate freshness policy"
  | rateInFuture => "rate observation is in the future"
  | rateStale => "exchange rate is stale"
  | quoteOverflow => "quote calculation overflow"
  | quotedAmountRange => "quoted XMR amount exceeds accounting storage range"

end CreditError

inductive Asset
  | btc
  | xmr
  deriving DecidableEq, Repr

/-- Zero is a valid cumulative starting balance. -/
structure AssetAmount where
  asset : Asset
  atomicUnits : Nat
  bounded : atomicUnits ≤ maxAccountingUnits
  deriving DecidableEq, Repr

namespace AssetAmount

def new (asset : Asset) (atomicUnits : Nat) : Except CreditError AssetAmount :=
  if bounded : atomicUnits ≤ maxAccountingUnits then .ok ⟨asset, atomicUnits, bounded⟩
  else .error .amountRange

def nativeSats (amount : AssetAmount) : Except CreditError Nat :=
  if amount.asset = .btc then .ok amount.atomicUnits else .error .notNativeBtc

theorem new_eq_ok {asset : Asset} {units : Nat} {amount : AssetAmount} :
    new asset units = .ok amount ↔ amount.asset = asset ∧ amount.atomicUnits = units := by
  unfold new
  split
  · rename_i bounded
    constructor
    · intro equal
      cases equal
      exact ⟨rfl, rfl⟩
    · rintro ⟨rfl, rfl⟩
      rfl
  · rename_i unbounded
    constructor
    · intro impossible
      cases impossible
    · rintro ⟨rfl, rfl⟩
      exact absurd amount.bounded unbounded

theorem new_of {asset : Asset} {units : Nat} (bounded : units ≤ maxAccountingUnits) :
    new asset units = .ok ⟨asset, units, bounded⟩ :=
  new_eq_ok.mpr ⟨rfl, rfl⟩

end AssetAmount

def checkedMulU128 (left right : Nat) : Option Nat :=
  if left * right < 2 ^ 128 then some (left * right) else none

def tryFromU64 (number : Nat) : Option UInt64 :=
  if number < 2 ^ 64 then some (UInt64.ofNat number) else none

theorem tryFromU64_eq_some {number : Nat} {narrowed : UInt64} :
    tryFromU64 number = some narrowed ↔ narrowed.toNat = number := by
  unfold tryFromU64
  constructor
  · intro fits
    split at fits
    case isTrue bounded =>
      cases fits
      exact UInt64.toNat_ofNat_of_lt' bounded
    case isFalse => cases fits
  · rintro rfl
    rw [if_pos narrowed.toNat_lt, UInt64.ofNat_toNat]

theorem tryFromU64_of {number : Nat} (fits : number < 2 ^ 64) :
    ∃ narrowed, tryFromU64 number = some narrowed :=
  ⟨UInt64.ofNat number, if_pos fits⟩

/-- The agreed ratio of a credit intent, never a spot price. -/
structure CreditTerms where
  asset : Asset
  expectedAtomic : Nat
  targetSats : Nat
  expectedPositive : 0 < expectedAtomic
  targetPositive : 0 < targetSats
  expectedBounded : expectedAtomic ≤ maxAccountingUnits
  targetBounded : targetSats ≤ maxAccountingUnits
  deriving DecidableEq, Repr

structure CreditUpdate where
  cumulativeEligible : AssetAmount
  cumulativeCreditSats : Nat
  deltaSats : Nat
  deriving DecidableEq, Repr

namespace CreditTerms

def nativeBtc : CreditTerms where
  asset := .btc
  expectedAtomic := 1
  targetSats := 1
  expectedPositive := by decide
  targetPositive := by decide
  expectedBounded := by decide
  targetBounded := by decide

def quotedXmr (expectedAtomic targetSats : Nat) : Except CreditError CreditTerms :=
  if positive : 0 < expectedAtomic ∧ 0 < targetSats then
    if bounded : expectedAtomic ≤ maxAccountingUnits ∧ targetSats ≤ maxAccountingUnits then
      .ok ⟨.xmr, expectedAtomic, targetSats, positive.1, positive.2, bounded.1, bounded.2⟩
    else .error .quoteRange
  else .error .quoteNotPositive

def cumulativeSats (terms : CreditTerms) (eligible : AssetAmount) :
    Except CreditError Nat := do
  ensure (eligible.asset = terms.asset) .assetMismatch
  let product ← require (checkedMulU128 eligible.atomicUnits terms.targetSats)
    .multiplicationOverflow
  let total := product / terms.expectedAtomic
  ensure (total ≤ maxAccountingUnits) .creditRange
  return total

/-- Regressions and inconsistent saved credit fail closed. -/
def assessUpdate (terms : CreditTerms) (previousEligible : AssetAmount)
    (previouslyCreditedSats : Nat) (currentEligible : AssetAmount) :
    Except CreditError CreditUpdate := do
  let previousTotal ← terms.cumulativeSats previousEligible
  let currentTotal ← terms.cumulativeSats currentEligible
  ensure (previousTotal = previouslyCreditedSats) .inconsistentCredit
  ensure (previousEligible.atomicUnits ≤ currentEligible.atomicUnits) .eligibleRegressed
  ensure (previousTotal ≤ currentTotal) .creditRegressed
  return ⟨currentEligible, currentTotal, currentTotal - previousTotal⟩

theorem quotedXmr_eq_ok {expectedAtomic targetSats : Nat} {terms : CreditTerms} :
    quotedXmr expectedAtomic targetSats = .ok terms ↔
      terms.asset = .xmr ∧ terms.expectedAtomic = expectedAtomic ∧
        terms.targetSats = targetSats := by
  unfold quotedXmr
  constructor
  · intro built
    split at built
    · split at built
      · cases built
        exact ⟨rfl, rfl, rfl⟩
      · cases built
    · cases built
  · rintro ⟨isXmr, rfl, rfl⟩
    rw [dif_pos ⟨terms.expectedPositive, terms.targetPositive⟩,
      dif_pos ⟨terms.expectedBounded, terms.targetBounded⟩]
    cases terms
    simp_all

theorem checkedMul_accounting {left right : Nat} (leftBound : left ≤ maxAccountingUnits)
    (rightBound : right ≤ maxAccountingUnits) :
    checkedMulU128 left right = some (left * right) := by
  have product := Nat.mul_le_mul leftBound rightBound
  have small : maxAccountingUnits * maxAccountingUnits < 2 ^ 128 := by decide
  exact if_pos (by omega)

theorem cumulativeSats_eq_ok {terms : CreditTerms} {eligible : AssetAmount} {sats : Nat} :
    terms.cumulativeSats eligible = .ok sats ↔
      eligible.asset = terms.asset ∧
        sats = eligible.atomicUnits * terms.targetSats / terms.expectedAtomic ∧
        sats ≤ maxAccountingUnits := by
  simp only [cumulativeSats, checkedMul_accounting eligible.bounded terms.targetBounded,
    bind_eq_ok, ensure_eq_ok, require_eq_ok, pure_eq_ok, Option.some.injEq]
  constructor
  · rintro ⟨_, sameAsset, _, rfl, _, bounded, rfl⟩
    exact ⟨sameAsset, rfl, bounded⟩
  · rintro ⟨sameAsset, rfl, bounded⟩
    exact ⟨.unit, sameAsset, _, rfl, .unit, bounded, rfl⟩

theorem assessUpdate_eq_ok {terms : CreditTerms} {previous current : AssetAmount}
    {credited : Nat} {update : CreditUpdate} :
    terms.assessUpdate previous credited current = .ok update ↔
      terms.cumulativeSats previous = .ok credited ∧
        terms.cumulativeSats current = .ok update.cumulativeCreditSats ∧
        previous.atomicUnits ≤ current.atomicUnits ∧
        credited ≤ update.cumulativeCreditSats ∧
        update.cumulativeEligible = current ∧
        update.deltaSats = update.cumulativeCreditSats - credited := by
  simp only [assessUpdate, bind_eq_ok, ensure_eq_ok, pure_eq_ok]
  constructor
  · rintro ⟨_, previousValued, _, currentValued, _, rfl, _, ordered, _, grows, rfl⟩
    exact ⟨previousValued, currentValued, ordered, grows, rfl, rfl⟩
  · rintro ⟨previousValued, currentValued, ordered, grows, rfl, sameDelta⟩
    refine ⟨_, previousValued, _, currentValued, .unit, rfl, .unit, ordered, .unit, grows, ?_⟩
    rw [← sameDelta]

def value (terms : CreditTerms) (amount : Int) : Int :=
  Watermark.share terms.targetSats terms.expectedAtomic amount

theorem value_natCast (terms : CreditTerms) (amount : Nat) :
    terms.value amount = ((amount * terms.targetSats / terms.expectedAtomic : Nat) : Int) := by
  simp [value, Watermark.share]

end CreditTerms

/-- Immutable rate evidence in satoshis per XMR. The two numbers are 64-bit. -/
structure XmrBtcRate where
  numerator : Nat
  denominator : Nat
  source : String
  observedAt : Int
  numeratorPositive : 0 < numerator
  denominatorPositive : 0 < denominator
  numeratorBounded : numerator < 2 ^ 64
  denominatorBounded : denominator < 2 ^ 64
  observedNonneg : 0 ≤ observedAt
  deriving DecidableEq, Repr

def isRateSourceChar (character : Char) : Bool :=
  character.isAlphanum || character = '-' || character = '_' || character = '.' ||
    character = ':'

/-- Two 64-bit integers and a time make a rate when they pass its checks. -/
def XmrBtcRate.new (numerator denominator : UInt64) (source : String) (observedAt : Int) :
    Except CreditError XmrBtcRate :=
  if positive : 0 < numerator.toNat ∧ 0 < denominator.toNat then
    if source = "" ∨ 96 < source.utf8ByteSize ∨ ¬ source.toList.all isRateSourceChar then
      .error .rateSource
    else if nonneg : 0 ≤ observedAt then
      .ok ⟨numerator.toNat, denominator.toNat, source, observedAt, positive.1, positive.2,
        numerator.toNat_lt, denominator.toNat_lt, nonneg⟩
    else .error .rateTime
  else .error .rateNotPositive

def XmrBtcRate.required (rate : XmrBtcRate) (targetSats : Nat) : Except CreditError Nat := do
  let numerator ← require
    ((checkedMulU128 targetSats piconeroPerXmr).bind fun product =>
      checkedMulU128 product rate.denominator) .quoteOverflow
  let required := numerator / rate.numerator +
    if numerator % rate.numerator ≠ 0 then 1 else 0
  ensure (required ≤ maxAccountingUnits) .quotedAmountRange
  return required

/-- A locked quote. It can only be built from a rate that prices its target at
its expected amount, with its times in order. -/
structure XmrQuote where
  terms : CreditTerms
  rate : XmrBtcRate
  issuedAt : Int
  expiresAt : Int
  isXmr : terms.asset = .xmr
  priced : rate.required terms.targetSats = .ok terms.expectedAtomic
  issuedNonneg : 0 ≤ issuedAt
  ordered : issuedAt < expiresAt
  observedBefore : rate.observedAt ≤ issuedAt
  deriving DecidableEq

def XmrBtcRate.quote (rate : XmrBtcRate) (targetSats : Nat) (issuedAt expiresAt : Int)
    (maxRateAgeSeconds : Nat) : Except CreditError XmrQuote :=
  if targetSats = 0 ∨ maxAccountingUnits < targetSats then .error .quoteTarget
  else if times : issuedAt < 0 ∨ expiresAt ≤ issuedAt ∨ maxRateAgeSeconds = 0 then
    .error .quotePolicy
  else if future : issuedAt < rate.observedAt then .error .rateInFuture
  else if (maxRateAgeSeconds : Int) < issuedAt - rate.observedAt then .error .rateStale
  else
    match priced : rate.required targetSats with
    | .error error => .error error
    | .ok required =>
        match built : CreditTerms.quotedXmr required targetSats with
        | .error error => .error error
        | .ok terms =>
            .ok {
              terms := terms
              rate := rate
              issuedAt := issuedAt
              expiresAt := expiresAt
              isXmr := (CreditTerms.quotedXmr_eq_ok.mp built).1
              priced := by
                have parts := CreditTerms.quotedXmr_eq_ok.mp built
                rw [parts.2.2, parts.2.1, priced]
              issuedNonneg := by omega
              ordered := by omega
              observedBefore := by omega }

theorem XmrBtcRate.quote_fields {rate : XmrBtcRate} {targetSats maxRateAgeSeconds : Nat}
    {issuedAt expiresAt : Int} {quote : XmrQuote}
    (quoted : rate.quote targetSats issuedAt expiresAt maxRateAgeSeconds = .ok quote) :
    quote.rate = rate ∧ quote.issuedAt = issuedAt ∧ quote.expiresAt = expiresAt ∧
      quote.terms.targetSats = targetSats := by
  revert quoted
  fun_cases XmrBtcRate.quote rate targetSats issuedAt expiresAt maxRateAgeSeconds
  case case7 =>
    rename_i built
    intro quoted
    cases quoted
    exact ⟨rfl, rfl, rfl, (CreditTerms.quotedXmr_eq_ok.mp built).2.2⟩
  all_goals
    intro quoted
    cases quoted

theorem XmrBtcRate.new_fields {numerator denominator : UInt64} {source : String}
    {observedAt : Int} {rate : XmrBtcRate}
    (built : XmrBtcRate.new numerator denominator source observedAt = .ok rate) :
    rate.numerator = numerator.toNat ∧ rate.denominator = denominator.toNat ∧
      rate.source = source ∧ rate.observedAt = observedAt := by
  unfold XmrBtcRate.new at built
  split at built
  · split at built
    · cases built
    · split at built
      · cases built
        exact ⟨rfl, rfl, rfl, rfl⟩
      · cases built
  · cases built

end LightningGoats
