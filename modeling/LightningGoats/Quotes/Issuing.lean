import LightningGoats.Domain.Pricing
import LightningGoats.Quotes.Calls

/-! # When the statements succeed

What a statement asks for is enough for it to succeed: a request without a row
is reserved, evidence that prices is issued as a document that decodes again,
and a reservation that still runs is completed.
-/

namespace LightningGoats

open Outcome Relational Text

/-! ## Transactions -/

theorem liftLedger_of {α : Type} {outcome : Except LedgerError α} {value : α}
    (succeeds : outcome = .ok value) : liftLedger outcome = .ok value :=
  liftLedger_eq_ok.mpr succeeds

theorem checkClock_of {now : Int} {db : QuoteDb} (ticks : Ticks now db) :
    checkClock now db = .ok (db.tick now) :=
  checkClock_eq_ok.mpr ⟨ticks.notBehind, ticks.nonneg, rfl⟩

theorem isLowerHexDigit_ascii {character : Char}
    (isDigit : isLowerHexDigit character = true) :
    character.utf8Size = 1 ∧ character ≠ '\x00' := by
  have bounds : 48 ≤ character.val.toNat ∧ character.val.toNat ≤ 127 := by
    simp only [isLowerHexDigit, Char.isDigit, Bool.or_eq_true, Bool.and_eq_true,
      decide_eq_true_eq, Char.le_def, UInt32.le_iff_toNat_le] at isDigit
    rcases isDigit with ⟨above, below⟩ | ⟨above, below⟩
    · exact ⟨above, Nat.le_trans below (by decide)⟩
    · exact ⟨Nat.le_trans (by decide) above, Nat.le_trans below (by decide)⟩
  constructor
  · exact if_pos (UInt32.le_iff_toNat_le.mpr bounds.2)
  · rintro rfl
    exact absurd bounds.1 (by decide)

theorem QuoteRequest.Valid.bucketLength {request : QuoteRequest} (valid : request.Valid) :
    sqlLength request.clientBucket = 64 := by
  rcases valid with ⟨_, size, hexadecimal, _⟩
  have ascii : ∀ character ∈ request.clientBucket.toList,
      character.utf8Size = 1 ∧ character ≠ '\x00' := by
    intro character member
    exact isLowerHexDigit_ascii (List.all_eq_true.mp hexadecimal character member)
  rw [sqlLength_eq fun member => (ascii _ member).2 rfl,
    ← utf8ByteSize_eq_length fun character member => (ascii character member).1]
  exact size

theorem reserveXmrQuote_of_absent {request : QuoteRequest} {identity : String}
    {policy : QuotePolicy} {now : Int} {db : QuoteDb} (ticks : Ticks now db)
    (valid : request.Valid) (absent : ∀ row ∈ db.xmrQuoteRequests.rows, row.id ≠ request.id)
    (inBounds : policy.minTargetSats ≤ request.targetSats ∧
      request.targetSats ≤ policy.maxTargetSats)
    (capacity : db.HasCapacity policy request.clientBucket now
      (saturatingSubI64 now policy.admissionWindowSeconds))
    (fits : now + reservationSeconds ≤ maxI64) :
    ∃ fresh, reserveXmrQuote request identity policy now db = .ok (none, { db with
      xmrQuoteClock := now
      xmrQuoteRequests :=
        db.xmrQuoteRequests.insert (reservation request identity now) fresh }) := by
  have fresh : db.xmrQuoteRequests.Fresh (reservation request identity now) :=
    Table.fresh_of_key absent
  have nonneg := ticks.nonneg
  have until_eq : checkedAddI64 now reservationSeconds = some (now + reservationSeconds) := by
    refine checkedAddI64_eq_some.mpr ⟨?_, fits, rfl⟩
    unfold reservationSeconds maxI64
    omega
  have rowValid : (reservation request identity now).Valid := by
    refine ⟨valid.bucketLength, nonneg, ?_⟩
    change now < now + reservationSeconds
    unfold reservationSeconds
    omega
  refine ⟨fresh, ?_⟩
  have notFound : findQuoteRequest request.id (db.tick now) = none :=
    findQuoteRequest_eq_none.mpr absent
  have inserted : insertRow "xmr_quote_requests" QuoteRequestRow.Valid
      (db.tick now).xmrQuoteRequests (reservation request identity now) = .ok (_, _) :=
    insertRow_eq_ok.mpr ⟨rowValid, rfl, fresh, rfl⟩
  refine bind_eq_ok.mpr ⟨_, checkClock_of ticks, ?_⟩
  rw [notFound]
  exact bind_eq_ok.mpr ⟨.unit, ensure_of inBounds, bind_eq_ok.mpr ⟨.unit, ensure_of capacity,
    bind_eq_ok.mpr ⟨_, require_eq_ok.mpr until_eq, bind_eq_ok.mpr
      ⟨_, liftLedger_of inserted, rfl⟩⟩⟩⟩

theorem reserveXmrQuote_of_full {request : QuoteRequest} {identity : String}
    {policy : QuotePolicy} {now : Int} {db : QuoteDb} (ticks : Ticks now db)
    (absent : ∀ row ∈ db.xmrQuoteRequests.rows, row.id ≠ request.id)
    (inBounds : policy.minTargetSats ≤ request.targetSats ∧
      request.targetSats ≤ policy.maxTargetSats)
    (full : ¬ db.HasCapacity policy request.clientBucket now
      (saturatingSubI64 now policy.admissionWindowSeconds)) :
    reserveXmrQuote request identity policy now db = .error .capacity := by
  have notFound : findQuoteRequest request.id (db.tick now) = none :=
    findQuoteRequest_eq_none.mpr absent
  have noRoom : ¬ (db.tick now).HasCapacity policy request.clientBucket now
      (saturatingSubI64 now policy.admissionWindowSeconds) := full
  rw [reserveXmrQuote, checkClock_of ticks, ok_bind, notFound]
  simp only [ensure_of inBounds, ok_bind]
  rw [Outcome.ensure, if_neg noRoom]
  rfl

/-! ## Rates -/

theorem parseU64_ofRate (rate : XmrBtcRate) :
    ∃ numerator, parseU64 (RateWatermark.ofRate rate).numerator = some numerator ∧
      numerator.toNat = rate.numerator ∧
      ∃ denominator, parseU64 (RateWatermark.ofRate rate).denominator = some denominator ∧
        denominator.toNat = rate.denominator :=
  ⟨_, parseU64_toString rate.numeratorBounded, Nat.mod_eq_of_lt rate.numeratorBounded, _,
    parseU64_toString rate.denominatorBounded, Nat.mod_eq_of_lt rate.denominatorBounded⟩

/-- The watermark of the rate's source reads as two integers, and it is neither newer
nor another ratio for the same time. -/
def AcceptsRate (rate : XmrBtcRate) (db : QuoteDb) : Prop :=
  ∀ mark ∈ db.xmrRateWatermarks.rows, mark.source = rate.source →
    ∃ numerator denominator, parseU64 mark.numerator = some numerator ∧
      parseU64 mark.denominator = some denominator ∧
      ¬ RateWatermark.Contradicts mark.observedAt numerator.toNat denominator.toNat rate

theorem markRate_accepts {rate : XmrBtcRate} {db : QuoteDb} :
    (∃ marked, markRate rate db = .ok marked) ↔ AcceptsRate rate db := by
  unfold markRate
  split
  · rename_i mark found
    rcases Table.find?_key_eq_some.mp found with ⟨member, sameSource⟩
    simp only [bind_eq_ok, require_eq_ok, ensure_eq_ok]
    constructor
    · rintro ⟨_, numerator, isNumerator, denominator, isDenominator, _, agrees, _⟩ other isOther
        otherSource
      have sameMark := db.xmrRateWatermarks.row_eq_of_clash isOther member
        (sameKey_iff.mpr ⟨rate.source, congrArg some otherSource, congrArg some sameSource⟩)
      rw [sameMark]
      exact ⟨numerator, denominator, isNumerator, isDenominator, agrees⟩
    · intro accepts
      rcases accepts mark member sameSource with
        ⟨numerator, denominator, isNumerator, isDenominator, agrees⟩
      by_cases newer : mark.observedAt < rate.observedAt
      · exact ⟨_, numerator, isNumerator, denominator, isDenominator, .unit, agrees, if_pos newer⟩
      · exact ⟨_, numerator, isNumerator, denominator, isDenominator, .unit, agrees, if_neg newer⟩
  · rename_i absent
    have absent : ∀ mark ∈ db.xmrRateWatermarks.rows, mark.source ≠ rate.source := by
      simpa using absent
    have fresh : db.xmrRateWatermarks.Fresh (.ofRate rate) := Table.fresh_of_key absent
    have inserted : insertRow "xmr_rate_watermarks" RateWatermark.Valid db.xmrRateWatermarks
        (.ofRate rate) = .ok (_, _) :=
      insertRow_eq_ok.mpr ⟨rate.observedNonneg, rfl, fresh, rfl⟩
    constructor
    · exact fun _ mark member sameSource => absurd sameSource (absent mark member)
    · exact fun _ => ⟨_, bind_eq_ok.mpr ⟨_, liftLedger_of inserted, rfl⟩⟩

theorem acceptsRate_of {rate : XmrBtcRate} {db : QuoteDb}
    (marks : ∀ mark ∈ db.xmrRateWatermarks.rows, mark.source = rate.source →
      ∃ prior, mark = .ofRate prior ∧ prior.observedAt ≤ rate.observedAt ∧
        (prior.observedAt = rate.observedAt →
          rate.numerator * prior.denominator = prior.numerator * rate.denominator)) :
    AcceptsRate rate db := by
  intro mark member sameSource
  rcases marks mark member sameSource with ⟨prior, rfl, ordered, agrees⟩
  rcases parseU64_ofRate prior with ⟨numerator, isNumerator, numeratorEq, denominator,
    isDenominator, denominatorEq⟩
  refine ⟨numerator, denominator, isNumerator, isDenominator, ?_⟩
  rw [numeratorEq, denominatorEq]
  rintro (older | ⟨sameTime, different⟩)
  · exact Int.not_lt.mpr ordered older
  · exact different (agrees sameTime)

theorem not_acceptsRate_of {rate prior : XmrBtcRate} {db : QuoteDb}
    (member : RateWatermark.ofRate prior ∈ db.xmrRateWatermarks.rows)
    (sameSource : prior.source = rate.source) (sameTime : prior.observedAt = rate.observedAt)
    (differs : rate.numerator * prior.denominator ≠ prior.numerator * rate.denominator) :
    ¬ AcceptsRate rate db := by
  intro accepts
  rcases accepts _ member sameSource with
    ⟨numerator, denominator, isNumerator, isDenominator, agrees⟩
  rcases parseU64_ofRate prior with
    ⟨_, readNumerator, sameNumerator, _, readDenominator, sameDenominator⟩
  cases readNumerator.symm.trans isNumerator
  cases readDenominator.symm.trans isDenominator
  rw [sameNumerator, sameDenominator] at agrees
  exact agrees (.inr ⟨sameTime, differs⟩)

theorem priceQuote_fields {service : QuoteService} {targetSats : Nat} {now issuedAt : Int}
    {evidence : RateEvidence} {priced : Int × XmrQuote}
    (prices : priceQuote service targetSats now issuedAt evidence = .ok priced) :
    priced.2.rate = evidence.rate ∧ priced.2.issuedAt = issuedAt ∧
      priced.2.expiresAt = issuedAt + service.policy.lifetimeSeconds := by
  simp only [priceQuote, bind_eq_ok, require_eq_ok, checkedAddI64_eq_some, liftTerms_eq_ok,
    pure_eq_ok] at prices
  rcases prices with ⟨_, _, _, _, _, ⟨_, _, rfl⟩, _, quoted, _, _, rfl⟩
  rcases XmrBtcRate.quote_fields quoted with ⟨sameRate, sameIssued, sameExpiry, _⟩
  exact ⟨sameRate, sameIssued, sameExpiry⟩

section Quotes

variable [QuoteJson]

theorem completeXmrQuote_of {row : QuoteRequestRow} {quote : StoredXmrQuote} {now : Int}
    {db marked : QuoteDb} (ticks : Ticks now db) (member : row ∈ db.xmrQuoteRequests.rows)
    (sameId : row.id = quote.id) (isReserved : row.status = .reserved)
    (sameIdentity : row.identityJson = quote.identityJson) (inTime : now < row.reservationUntil)
    (issued : quote.quote.issuedAt = now)
    (marks : markRate quote.quote.rate (db.tick now) = .ok marked) :
    completeXmrQuote quote.id quote.identityJson quote now db =
      .ok (settleQuoteRequest quote.id (.ready quote.documentJson) marked) := by
  have found : findQuoteRequest quote.id (db.tick now) = some row :=
    findQuoteRequest_eq_some.mpr ⟨member, sameId⟩
  refine bind_eq_ok.mpr ⟨_, checkClock_of ticks, ?_⟩
  exact bind_eq_ok.mpr ⟨row, require_eq_ok.mpr found, bind_eq_ok.mpr ⟨.unit,
    ensure_of ⟨isReserved, sameIdentity, inTime, rfl, issued⟩,
    bind_eq_ok.mpr ⟨marked, marks, rfl⟩⟩⟩

/-- What a complete transaction asks of the store before it, about the reservation
that it finds. -/
structure Completable (quote : StoredXmrQuote) (now : Int) (row : QuoteRequestRow)
    (db : QuoteDb) : Prop where
  ticks : Ticks now db
  member : row ∈ db.xmrQuoteRequests.rows
  sameId : row.id = quote.id
  isReserved : row.status = .reserved
  sameIdentity : row.identityJson = quote.identityJson
  inTime : now < row.reservationUntil
  issued : quote.quote.issuedAt = now
  accepts : AcceptsRate quote.quote.rate db

theorem completeXmrQuote_completes {quote : StoredXmrQuote} {now : Int} {db : QuoteDb} :
    (∃ after, completeXmrQuote quote.id quote.identityJson quote now db = .ok after) ↔
      ∃ row, Completable quote now row db := by
  constructor
  · rintro ⟨after, ran⟩
    simp only [completeXmrQuote, bind_eq_ok, checkClock_eq_ok, require_eq_ok, ensure_eq_ok] at ran
    rcases ran with ⟨_, ⟨notBehind, nonneg, rfl⟩, row, found, _,
      ⟨isReserved, sameIdentity, inTime, _, issued⟩, marked, marks, _⟩
    rcases findQuoteRequest_eq_some.mp found with ⟨member, sameId⟩
    have accepts : AcceptsRate quote.quote.rate (db.tick now) :=
      markRate_accepts.mp ⟨marked, marks⟩
    exact ⟨row, ⟨notBehind, nonneg⟩, member, sameId, isReserved, sameIdentity, inTime, issued,
      accepts⟩
  · rintro ⟨row, completable⟩
    have accepts : AcceptsRate quote.quote.rate (db.tick now) := completable.accepts
    rcases markRate_accepts.mpr accepts with ⟨marked, marks⟩
    exact ⟨_, completeXmrQuote_of completable.ticks completable.member completable.sameId
      completable.isReserved completable.sameIdentity completable.inTime completable.issued marks⟩

/-! ## Issuing -/

theorem issueQuote_of {service : QuoteService} {request : QuoteRequest} {identity : String}
    {value : Identity} {now issuedAt : Int} {evidence : RateEvidence}
    {priced : Int × XmrQuote} (isIdentity : Identity.new request service.context = .ok value)
    (sameIdentity : identityCodec.encode value = identity)
    (inBounds : service.policy.minTargetSats ≤ request.targetSats ∧
      request.targetSats ≤ service.policy.maxTargetSats)
    (prices : priceQuote service request.targetSats now issuedAt evidence = .ok priced) :
    ∃ stored, issueQuote service request identity now issuedAt evidence = .ok stored ∧
      stored.quote = priced.2 ∧ stored.id = request.id ∧
      stored.parts.document.policy = service.policy := by
  rcases priced with ⟨expiresAt, quote⟩
  have identityFields := Identity.new_fields isIdentity
  have steps := prices
  simp only [priceQuote, bind_eq_ok, ensure_eq_ok, require_eq_ok, liftTerms_eq_ok, pure_eq_ok,
    checkedAddI64_eq_some, Prod.mk.injEq] at steps
  rcases steps with ⟨_, ⟨isSource, _, fetchedBefore⟩, _, rateInBounds, _, ⟨_, _, isExpiry⟩,
    locked, quoted, _, bounded, sameExpiry, sameQuote⟩
  rw [isExpiry] at sameExpiry
  subst sameExpiry sameQuote isExpiry
  rcases XmrBtcRate.quote_fields quoted with ⟨sameRate, _, _, _⟩
  have sourceValid := service.sourceValid
  rw [← isSource] at sourceValid
  let document := quoteDocument service identity evidence issuedAt
    (issuedAt + service.policy.lifetimeSeconds) locked
  let parts : QuoteParts := ⟨document, value, locked⟩
  have isRead : readQuote (documentCodec.encode document) identity = .ok parts := by
    refine readQuote_eq_ok.mpr ⟨QuoteJson.readDocument_written document, rfl, rfl, ?_,
      service.policyValid, ?_, ?_, ?_, ?_⟩
    · rw [← sameIdentity]
      exact QuoteJson.readIdentity_written value
    · rw [sameRate]
      exact rate_of_texts sourceValid
    · rw [sameRate]
      exact rateInBounds
    · rw [sameRate, identityFields.2]
      exact quoted
    · refine ⟨?_, ?_, ?_, evidence.chronological, fetchedBefore, rfl, bounded, evidence.bounded,
        evidence.nonempty, rfl⟩
      · exact identityFields.2 ▸ inBounds.1
      · exact identityFields.2 ▸ inBounds.2
      · exact add_sub_cancel_left _ _
  refine ⟨⟨documentCodec.encode document, parts, isRead⟩, ?_, rfl, identityFields.1, rfl⟩
  simp only [issueQuote, bind_eq_ok]
  exact ⟨_, prices, StoredXmrQuote.decode_eq_ok.mpr ⟨rfl, rfl⟩⟩

end Quotes

end LightningGoats
