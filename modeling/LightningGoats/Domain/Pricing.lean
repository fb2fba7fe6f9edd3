import LightningGoats.Foundation.Codec
import LightningGoats.Domain.Credit
import Mathlib.Tactic.Ring

/-! # Pricing is exact

A quoted amount is the least one that covers its target at the rate. Under the
ratio that is then agreed, no amount earns more than it is worth at the rate, and
no product or cast loses anything.
-/

namespace LightningGoats

open Outcome Text

/-! ## Rounding up -/

def divUp (numerator denominator : Nat) : Nat :=
  numerator / denominator + if numerator % denominator ≠ 0 then 1 else 0

theorem divUp_le_iff {numerator denominator bound : Nat} (positive : 0 < denominator) :
    divUp numerator denominator ≤ bound ↔ numerator ≤ bound * denominator := by
  have split := Nat.div_add_mod numerator denominator
  have remainder := Nat.mod_lt numerator positive
  rw [Nat.mul_comm] at split
  unfold divUp
  constructor
  · intro covered
    by_cases exact' : numerator % denominator = 0
    · have quotient : numerator / denominator ≤ bound := by simpa [exact'] using covered
      have product := Nat.mul_le_mul_right denominator quotient
      omega
    · have quotient : numerator / denominator + 1 ≤ bound := by simpa [exact'] using covered
      have product := Nat.mul_le_mul_right denominator quotient
      rw [Nat.add_mul, Nat.one_mul] at product
      omega
  · intro covered
    have quotient : numerator / denominator ≤ bound :=
      Nat.div_le_of_le_mul (by rwa [Nat.mul_comm])
    by_cases exact' : numerator % denominator = 0
    · simpa [exact'] using quotient
    · have strict : numerator / denominator ≠ bound := by
        rintro rfl
        omega
      simp only [exact', ne_eq, not_false_eq_true, if_true]
      omega

namespace XmrBtcRate

variable {rate : XmrBtcRate} {targetSats required : Nat}

def cost (rate : XmrBtcRate) (targetSats : Nat) : Nat :=
  targetSats * piconeroPerXmr * rate.denominator

theorem checkedMulU128_eq_some {left right product : Nat} :
    checkedMulU128 left right = some product ↔ left * right < 2 ^ 128 ∧ left * right = product := by
  unfold checkedMulU128
  split
  · rename_i fits
    rw [Option.some.injEq]
    exact ⟨fun same => ⟨fits, same⟩, fun holds => holds.2⟩
  · rename_i overflows
    simp only [reduceCtorEq, false_iff]
    exact fun holds => overflows holds.1

/-- A target within the accounting range fits 128 bits with its piconero factor. -/
theorem checkedMul_target (bounded : targetSats ≤ maxAccountingUnits) :
    checkedMulU128 targetSats piconeroPerXmr = some (targetSats * piconeroPerXmr) :=
  CreditTerms.checkedMul_accounting bounded (by decide)

theorem required_eq_ok (bounded : targetSats ≤ maxAccountingUnits) :
    rate.required targetSats = .ok required ↔
      rate.cost targetSats < 2 ^ 128 ∧ required = divUp (rate.cost targetSats) rate.numerator ∧
        required ≤ maxAccountingUnits := by
  unfold XmrBtcRate.required cost
  rw [checkedMul_target bounded, Option.bind_some, bind_eq_ok]
  constructor
  · rintro ⟨product, read, rest⟩
    rcases checkedMulU128_eq_some.mp (require_eq_ok.mp read) with ⟨fits, rfl⟩
    rcases bind_eq_ok.mp rest with ⟨_, inRange, built⟩
    cases built
    exact ⟨fits, rfl, ensure_eq_ok.mp inRange⟩
  · rintro ⟨fits, rfl, inRange⟩
    refine ⟨_, require_eq_ok.mpr (checkedMulU128_eq_some.mpr ⟨fits, rfl⟩), ?_⟩
    exact bind_eq_ok.mpr ⟨.unit, ensure_eq_ok.mpr inRange, rfl⟩

/-- A price that exists is the least covering amount. -/
theorem required_least (bounded : targetSats ≤ maxAccountingUnits)
    (prices : rate.required targetSats = .ok required) (amount : Nat) :
    required ≤ amount ↔ rate.cost targetSats ≤ amount * rate.numerator := by
  rcases (required_eq_ok bounded).mp prices with ⟨_, rfl, _⟩
  exact divUp_le_iff rate.numeratorPositive

end XmrBtcRate

/-! ## Texts -/

theorem rate_of_texts {rate : XmrBtcRate}
    (sourceValid : (XmrBtcRate.new 1 1 rate.source 0).isOk = true) :
    ∃ numerator, parseU64 (toString rate.numerator) = some numerator ∧
      ∃ denominator, parseU64 (toString rate.denominator) = some denominator ∧
        XmrBtcRate.new numerator denominator rate.source rate.observedAt = .ok rate := by
  refine ⟨_, parseU64_toString rate.numeratorBounded, _,
    parseU64_toString rate.denominatorBounded, ?_⟩
  have numeratorEq : (UInt64.ofNat rate.numerator).toNat = rate.numerator :=
    Nat.mod_eq_of_lt rate.numeratorBounded
  have denominatorEq : (UInt64.ofNat rate.denominator).toNat = rate.denominator :=
    Nat.mod_eq_of_lt rate.denominatorBounded
  unfold XmrBtcRate.new at sourceValid ⊢
  split at sourceValid
  · split at sourceValid
    · cases sourceValid
    · rename_i wellFormed
      have positive : 0 < (UInt64.ofNat rate.numerator).toNat ∧
          0 < (UInt64.ofNat rate.denominator).toNat := by
        rw [numeratorEq, denominatorEq]
        exact ⟨rate.numeratorPositive, rate.denominatorPositive⟩
      rw [dif_pos positive, if_neg wellFormed, dif_pos rate.observedNonneg]
      simp only [numeratorEq, denominatorEq]
  · cases sourceValid

/-! ## Quotes -/

structure QuoteInputs (rate : XmrBtcRate) (targetSats : Nat) (issuedAt expiresAt : Int)
    (maxRateAgeSeconds : Nat) : Prop where
  targetPositive : 0 < targetSats
  targetBounded : targetSats ≤ maxAccountingUnits
  issuedNonneg : 0 ≤ issuedAt
  ordered : issuedAt < expiresAt
  agePositive : 0 < maxRateAgeSeconds
  observed : rate.observedAt ≤ issuedAt
  recent : issuedAt - rate.observedAt ≤ maxRateAgeSeconds

theorem quote_eq_ok {rate : XmrBtcRate} {targetSats maxRateAgeSeconds : Nat}
    {issuedAt expiresAt : Int} {quote : XmrQuote} :
    rate.quote targetSats issuedAt expiresAt maxRateAgeSeconds = .ok quote ↔
      QuoteInputs rate targetSats issuedAt expiresAt maxRateAgeSeconds ∧
        rate.required targetSats = .ok quote.terms.expectedAtomic ∧
        quote.terms.targetSats = targetSats ∧ quote.rate = rate ∧
        quote.issuedAt = issuedAt ∧ quote.expiresAt = expiresAt := by
  constructor
  · fun_cases XmrBtcRate.quote rate targetSats issuedAt expiresAt maxRateAgeSeconds
    case case7 target times future fresh required prices terms built =>
      rintro ⟨rfl⟩
      have parts := CreditTerms.quotedXmr_eq_ok.mp built
      refine ⟨⟨by omega, by omega, by omega, by omega, by omega, by omega, by omega⟩, ?_,
        parts.2.2, rfl, rfl, rfl⟩
      rw [parts.2.1]
      exact prices
    all_goals
      intro impossible
      cases impossible
  · rintro ⟨inputs, prices, rfl, rfl, rfl, rfl⟩
    have built : CreditTerms.quotedXmr quote.terms.expectedAtomic quote.terms.targetSats =
        .ok quote.terms := CreditTerms.quotedXmr_eq_ok.mpr ⟨quote.isXmr, rfl, rfl⟩
    rcases inputs with ⟨target, bounded, nonneg, ordered, age, observed, recent⟩
    fun_cases XmrBtcRate.quote quote.rate quote.terms.targetSats quote.issuedAt quote.expiresAt
      maxRateAgeSeconds
    case case1 outOfRange => omega
    case case2 _ invalid => omega
    case case3 _ _ future => omega
    case case4 _ _ _ stale => omega
    case case5 _ _ _ _ error failed =>
      rw [prices] at failed
      cases failed
    case case6 _ _ _ _ required found error failed =>
      cases prices.symm.trans found
      rw [built] at failed
      cases failed
    case case7 _ _ _ _ required found terms isTerms =>
      cases prices.symm.trans found
      cases built.symm.trans isTerms
      rfl

theorem quote_exists {rate : XmrBtcRate} {targetSats maxRateAgeSeconds : Nat}
    {issuedAt expiresAt : Int}
    (inputs : QuoteInputs rate targetSats issuedAt expiresAt maxRateAgeSeconds) :
    (∃ quote, rate.quote targetSats issuedAt expiresAt maxRateAgeSeconds = .ok quote) ↔
      rate.cost targetSats < 2 ^ 128 ∧
        divUp (rate.cost targetSats) rate.numerator ≤ maxAccountingUnits := by
  constructor
  · rintro ⟨quote, quoted⟩
    have prices := (quote_eq_ok.mp quoted).2.1
    rcases (XmrBtcRate.required_eq_ok inputs.targetBounded).mp prices with ⟨fits, same, inRange⟩
    exact ⟨fits, same ▸ inRange⟩
  · rintro ⟨fits, inRange⟩
    have prices : rate.required targetSats =
        .ok (divUp (rate.cost targetSats) rate.numerator) :=
      (XmrBtcRate.required_eq_ok inputs.targetBounded).mpr ⟨fits, rfl, inRange⟩
    have costs : 0 < rate.cost targetSats :=
      Nat.mul_pos (Nat.mul_pos inputs.targetPositive (by decide)) rate.denominatorPositive
    have positive : 0 < divUp (rate.cost targetSats) rate.numerator := by
      by_contra notPositive
      have covered := (divUp_le_iff rate.numeratorPositive).mp (Nat.le_of_not_lt notPositive)
      rw [Nat.zero_mul] at covered
      exact Nat.not_lt.mpr covered costs
    refine ⟨⟨⟨.xmr, _, targetSats, positive, inputs.targetPositive, inRange,
      inputs.targetBounded⟩, rate, issuedAt, expiresAt, rfl, prices, inputs.issuedNonneg,
      inputs.ordered, inputs.observed⟩, ?_⟩
    exact quote_eq_ok.mpr ⟨inputs, prices, rfl, rfl, rfl, rfl⟩

namespace XmrQuote

variable {quote : XmrQuote} {paid : AssetAmount} {sats : Nat}

theorem expected_least (quote : XmrQuote) (amount : Nat) :
    quote.terms.expectedAtomic ≤ amount ↔
      quote.rate.cost quote.terms.targetSats ≤ amount * quote.rate.numerator :=
  XmrBtcRate.required_least quote.terms.targetBounded quote.priced amount

theorem expected_earns (isXmr : paid.asset = .xmr)
    (full : paid.atomicUnits = quote.terms.expectedAtomic) :
    quote.terms.cumulativeSats paid = .ok quote.terms.targetSats := by
  have earned : paid.atomicUnits * quote.terms.targetSats / quote.terms.expectedAtomic =
      quote.terms.targetSats := by
    rw [full]
    exact Nat.mul_div_cancel_left _ quote.terms.expectedPositive
  exact CreditTerms.cumulativeSats_eq_ok.mpr
    ⟨isXmr.trans quote.isXmr.symm, earned.symm, quote.terms.targetBounded⟩

theorem partial_earns (isXmr : paid.asset = .xmr)
    (less : paid.atomicUnits < quote.terms.expectedAtomic) :
    ∃ sats < quote.terms.targetSats, quote.terms.cumulativeSats paid = .ok sats := by
  have earned : paid.atomicUnits * quote.terms.targetSats / quote.terms.expectedAtomic <
      quote.terms.targetSats := by
    rw [Nat.div_lt_iff_lt_mul quote.terms.expectedPositive,
      Nat.mul_comm quote.terms.targetSats]
    exact Nat.mul_lt_mul_of_pos_right less quote.terms.targetPositive
  refine ⟨_, earned, CreditTerms.cumulativeSats_eq_ok.mpr
    ⟨isXmr.trans quote.isXmr.symm, rfl, ?_⟩⟩
  exact earned.le.trans quote.terms.targetBounded

/-- Rounding the price up and the credit down never favours the payer. -/
theorem earned_le (credited : quote.terms.cumulativeSats paid = .ok sats) :
    quote.rate.cost sats ≤ paid.atomicUnits * quote.rate.numerator := by
  rcases CreditTerms.cumulativeSats_eq_ok.mp credited with ⟨_, share, _⟩
  have priced := (quote.expected_least quote.terms.expectedAtomic).mp le_rfl
  have shared : sats * quote.terms.expectedAtomic ≤
      paid.atomicUnits * quote.terms.targetSats := by
    rw [share]
    exact Nat.div_mul_le_self ..
  refine Nat.le_of_mul_le_mul_right ?_ quote.terms.expectedPositive
  unfold XmrBtcRate.cost at priced ⊢
  generalize piconeroPerXmr = piconero at priced ⊢
  calc sats * piconero * quote.rate.denominator * quote.terms.expectedAtomic
      = sats * quote.terms.expectedAtomic * (piconero * quote.rate.denominator) := by ring
    _ ≤ paid.atomicUnits * quote.terms.targetSats * (piconero * quote.rate.denominator) :=
        Nat.mul_le_mul_right _ shared
    _ = paid.atomicUnits * (quote.terms.targetSats * piconero * quote.rate.denominator) := by
        ring
    _ ≤ paid.atomicUnits * (quote.terms.expectedAtomic * quote.rate.numerator) :=
        Nat.mul_le_mul_left _ priced
    _ = paid.atomicUnits * quote.rate.numerator * quote.terms.expectedAtomic := by ring

end XmrQuote

/-- A valuation fails only for an amount of another asset or a credit out of range:
its product fits 128 bits whatever the terms. -/
theorem valuation_fails {terms : CreditTerms} {eligible : AssetAmount}
    (sameAsset : eligible.asset = terms.asset) :
    (∃ error, terms.cumulativeSats eligible = .error error) ↔
      2 ^ 128 ≤ eligible.atomicUnits * terms.targetSats ∨
        maxAccountingUnits <
          eligible.atomicUnits * terms.targetSats / terms.expectedAtomic := by
  have fits := (XmrBtcRate.checkedMulU128_eq_some.mp
    (CreditTerms.checkedMul_accounting eligible.bounded terms.targetBounded)).1
  rw [failed_iff, or_iff_right (Nat.not_le.mpr fits)]
  constructor
  · intro unvalued
    by_contra inRange
    exact unvalued ⟨_, CreditTerms.cumulativeSats_eq_ok.mpr
      ⟨sameAsset, rfl, Nat.le_of_not_lt inRange⟩⟩
  · rintro outOfRange ⟨sats, valued⟩
    rcases CreditTerms.cumulativeSats_eq_ok.mp valued with ⟨_, rfl, bounded⟩
    exact Nat.not_le.mpr outOfRange bounded

/-- A quoted amount is the least that covers the target at the rate; it earns the
target, less earns less, and nothing earns more than it is worth. Within their checks
pricing and valuation fail exactly when a product leaves 128 bits or the exact result
leaves the accounting range, and every value they cast fits the type it is cast to. -/
theorem quote_prices_exactly (rate : XmrBtcRate) (targetSats maxRateAgeSeconds : Nat)
    (issuedAt expiresAt : Int) :
    (∀ quote, rate.quote targetSats issuedAt expiresAt maxRateAgeSeconds = .ok quote →
      (∀ amount, quote.terms.expectedAtomic ≤ amount ↔
        targetSats * piconeroPerXmr * rate.denominator ≤ amount * rate.numerator) ∧
      (∀ paid : AssetAmount, paid.asset = .xmr →
        (paid.atomicUnits = quote.terms.expectedAtomic →
          quote.terms.cumulativeSats paid = .ok targetSats) ∧
        (paid.atomicUnits < quote.terms.expectedAtomic →
          ∃ sats < targetSats, quote.terms.cumulativeSats paid = .ok sats)) ∧
      ∀ (paid : AssetAmount) (sats : Nat), quote.terms.cumulativeSats paid = .ok sats →
        sats * piconeroPerXmr * rate.denominator ≤ paid.atomicUnits * rate.numerator) ∧
    (QuoteInputs rate targetSats issuedAt expiresAt maxRateAgeSeconds →
      ((∃ error, rate.quote targetSats issuedAt expiresAt maxRateAgeSeconds = .error error) ↔
        2 ^ 128 ≤ targetSats * piconeroPerXmr * rate.denominator ∨
          maxAccountingUnits * rate.numerator <
            targetSats * piconeroPerXmr * rate.denominator) ∧
      targetSats * piconeroPerXmr < 2 ^ 128 ∧
      (issuedAt ≤ maxAccountingUnits →
        0 ≤ issuedAt - rate.observedAt ∧ issuedAt - rate.observedAt < 2 ^ 63) ∧
      ∀ required, rate.required targetSats = .ok required → required < 2 ^ 64) ∧
    ∀ (terms : CreditTerms) (eligible : AssetAmount), eligible.asset = terms.asset →
      ((∃ error, terms.cumulativeSats eligible = .error error) ↔
        2 ^ 128 ≤ eligible.atomicUnits * terms.targetSats ∨
          maxAccountingUnits <
            eligible.atomicUnits * terms.targetSats / terms.expectedAtomic) ∧
      ∀ sats, terms.cumulativeSats eligible = .ok sats →
        sats = eligible.atomicUnits * terms.targetSats / terms.expectedAtomic ∧
          sats < 2 ^ 64 := by
  have unsigned : maxAccountingUnits < 2 ^ 64 := by decide
  have signed : (maxAccountingUnits : Int) < 2 ^ 63 := by decide
  refine ⟨?_, ?_, ?_⟩
  · intro quote quoted
    rcases quote_eq_ok.mp quoted with ⟨_, _, rfl, rfl, _, _⟩
    exact ⟨quote.expected_least, fun paid isXmr =>
      ⟨XmrQuote.expected_earns isXmr, XmrQuote.partial_earns isXmr⟩,
      fun paid sats credited => XmrQuote.earned_le credited⟩
  · intro inputs
    refine ⟨?_, ?_, ?_, ?_⟩
    · rw [failed_iff, quote_exists inputs, divUp_le_iff rate.numeratorPositive, not_and_or,
        Nat.not_lt, Nat.not_le]
      rfl
    · exact (XmrBtcRate.checkedMulU128_eq_some.mp
        (XmrBtcRate.checkedMul_target inputs.targetBounded)).1
    · intro inRange
      have observed := inputs.observed
      have nonneg := rate.observedNonneg
      constructor
      · omega
      · omega
    · intro required prices
      exact ((XmrBtcRate.required_eq_ok inputs.targetBounded).mp prices).2.2.trans_lt unsigned
  · intro terms eligible sameAsset
    refine ⟨valuation_fails sameAsset, ?_⟩
    intro sats valued
    rcases CreditTerms.cumulativeSats_eq_ok.mp valued with ⟨_, share, bounded⟩
    exact ⟨share, bounded.trans_lt unsigned⟩

/-- At three satoshis per XMR the price of one satoshi is rounded up. -/
theorem quote_prices_exactly_example :
    ∃ rate quote, XmrBtcRate.quote rate 1 10 20 5 = .ok quote ∧
      quote.terms.expectedAtomic = 333333333334 ∧
      ∀ amount, 333333333334 ≤ amount ↔ 1000000000000 ≤ amount * 3 := by
  let rate : XmrBtcRate := ⟨3, 1, "fixture", 8, by decide, by decide, by decide, by decide,
    by decide⟩
  have inputs : QuoteInputs rate 1 10 20 5 :=
    ⟨by decide, by decide, by decide, by decide, by decide, by decide, by decide⟩
  rcases (quote_exists inputs).mpr ⟨by decide, by decide⟩ with ⟨quote, quoted⟩
  have prices := (quote_eq_ok.mp quoted).2.1
  have amount : quote.terms.expectedAtomic = 333333333334 :=
    ((XmrBtcRate.required_eq_ok (by decide)).mp prices).2.1.trans (by decide)
  refine ⟨rate, quote, quoted, amount, ?_⟩
  have least := ((quote_prices_exactly rate 1 5 10 20).1 quote quoted).1
  rw [amount] at least
  exact least

end LightningGoats
