import LightningGoats.Quotes.Decimals

/-! # The chosen candle

What the oracle returns is the rate of the newest nonempty closed candle, whose
prices it has compared exactly.
-/

namespace LightningGoats

open Outcome Decimal

/-! ## Exact prices -/

def exactValue (text : String) : ℚ :=
  value (decimalParts text).1.toList (decimalParts text).2.toList

theorem exactValue_of {text : String} {whole : List Char} {fraction : Option (List Char)}
    (isDecimal : IsDecimal text whole fraction) :
    exactValue text = value whole (fraction.getD []) := by
  rw [exactValue, decimalParts_of isDecimal, String.toList_ofList, String.toList_ofList]

theorem decimal_exact {text : String} {read : UInt64 × UInt64}
    (reads : decimal text = .ok read) :
    (∃ whole fraction, IsDecimal text whole fraction) ∧
      LowestTerms read.1.toNat read.2.toNat (exactValue text) := by
  rcases decimal_eq_ok.mp reads with ⟨whole, fraction, isDecimal, lowest⟩
  exact ⟨⟨whole, fraction, isDecimal⟩, exactValue_of isDecimal ▸ lowest⟩

section Comparison

variable {left right : UInt64 × UInt64} {leftValue rightValue : ℚ}

theorem products_le (leftLowest : LowestTerms left.1.toNat left.2.toNat leftValue)
    (rightLowest : LowestTerms right.1.toNat right.2.toNat rightValue) :
    left.1.toNat * right.2.toNat ≤ right.1.toNat * left.2.toNat ↔ leftValue ≤ rightValue := by
  have leftPositive : (0 : ℚ) < left.2.toNat := by exact_mod_cast leftLowest.positive
  have rightPositive : (0 : ℚ) < right.2.toNat := by exact_mod_cast rightLowest.positive
  rw [← leftLowest.exact, ← rightLowest.exact, div_le_div_iff₀ leftPositive rightPositive]
  norm_cast

theorem cmp_ne_gt (leftLowest : LowestTerms left.1.toNat left.2.toNat leftValue)
    (rightLowest : LowestTerms right.1.toNat right.2.toNat rightValue) :
    cmp left right ≠ .gt ↔ leftValue ≤ rightValue := by
  rw [cmp, Nat.compare_ne_gt, products_le leftLowest rightLowest]

theorem cmp_ne_lt (leftLowest : LowestTerms left.1.toNat left.2.toNat leftValue)
    (rightLowest : LowestTerms right.1.toNat right.2.toNat rightValue) :
    cmp left right ≠ .lt ↔ rightValue ≤ leftValue := by
  rw [cmp, Nat.compare_ne_lt, products_le rightLowest leftLowest]

theorem numerator_ne_zero (lowest : LowestTerms left.1.toNat left.2.toNat leftValue) :
    left.1 ≠ 0 ↔ 0 < leftValue := by
  have positive : (0 : ℚ) < left.2.toNat := by exact_mod_cast lowest.positive
  rw [← lowest.exact, div_pos_iff_of_pos_right positive, Nat.cast_pos, Nat.pos_iff_ne_zero,
    ← UInt64.toNat_zero, ne_eq, ne_eq, UInt64.toNat_inj]

end Comparison

structure Candle.Ordered (candle : Candle) : Prop where
  decimals : ∀ text ∈ [candle.open', candle.high, candle.low, candle.close, candle.vwap],
    ∃ whole fraction, IsDecimal text whole fraction
  lowPositive : 0 < exactValue candle.low
  lowHigh : exactValue candle.low ≤ exactValue candle.high
  within : ∀ text ∈ [candle.open', candle.close, candle.vwap],
    exactValue candle.low ≤ exactValue text ∧ exactValue text ≤ exactValue candle.high

theorem checkPrices_ordered {candle : Candle} (checked : checkPrices candle = .ok ()) :
    candle.Ordered := by
  simp only [checkPrices, bind_eq_ok, ensure_eq_ok, List.any_eq_false, List.forall_mem_cons,
    Bool.or_eq_true, decide_eq_true_eq, not_or, ← ne_eq] at checked
  rcases checked with ⟨open', opens, high, highs, low, lows, close, closes, vwap, vwaps,
    lowNonzero, lowHigh, openWithin, closeWithin, vwapWithin, _⟩
  rcases decimal_exact opens with ⟨openDecimal, openLowest⟩
  rcases decimal_exact highs with ⟨highDecimal, highLowest⟩
  rcases decimal_exact lows with ⟨lowDecimal, lowLowest⟩
  rcases decimal_exact closes with ⟨closeDecimal, closeLowest⟩
  rcases decimal_exact vwaps with ⟨vwapDecimal, vwapLowest⟩
  rw [cmp_ne_lt openLowest lowLowest, cmp_ne_gt openLowest highLowest] at openWithin
  rw [cmp_ne_lt closeLowest lowLowest, cmp_ne_gt closeLowest highLowest] at closeWithin
  rw [cmp_ne_lt vwapLowest lowLowest, cmp_ne_gt vwapLowest highLowest] at vwapWithin
  exact {
    decimals := by
      simp only [List.forall_mem_cons]
      exact ⟨openDecimal, highDecimal, lowDecimal, closeDecimal, vwapDecimal, by simp⟩
    lowPositive := (numerator_ne_zero lowLowest).mp lowNonzero
    lowHigh := (cmp_ne_gt lowLowest highLowest).mp lowHigh
    within := by
      simp only [List.forall_mem_cons]
      exact ⟨openWithin, closeWithin, vwapWithin, by simp⟩ }

theorem btcPerXmrDecimalRate_exact {price source : String} {observedAt : Int}
    {rate : XmrBtcRate} (built : btcPerXmrDecimalRate price source observedAt = .ok rate) :
    LowestTerms rate.numerator rate.denominator (exactValue price * satsPerBtc) ∧
      rate.source = source ∧ rate.observedAt = observedAt := by
  simp only [btcPerXmrDecimalRate, bind_eq_ok, ensure_eq_ok, require_eq_ok,
    tryFromU64_eq_some, mapError_eq_ok] at built
  rcases built with ⟨read, reads, _, _, numerator, numerators, denominator, denominators, built⟩
  have fields := XmrBtcRate.new_fields built
  have lowest := (decimal_exact reads).2
  have reduced := lowestTerms_div_gcd (read.1.toNat * satsPerBtc) lowest.positive
  rw [gcd_eq] at numerators denominators
  rw [← numerators, ← denominators, ← fields.1, ← fields.2.1, Nat.cast_mul,
    mul_div_right_comm, lowest.exact] at reduced
  exact ⟨reduced, fields.2.2⟩

/-! ## Rows -/

/-- No row is out of order, out of the clock's range or within a minute. -/
structure Chronological (fetchedAt : Int) (candles : List Candle) : Prop where
  increasing : candles.Pairwise fun left right => left.start < right.start
  minutes : ∀ candle ∈ candles,
    0 ≤ candle.start ∧ candle.start % 60 = 0 ∧ candle.start ≤ fetchedAt

/-- The loop accepts rows that are chronological and start after the one before. -/
theorem checkChronology_eq_ok {fetchedAt : Int} {previous : Option Int} {candles : List Candle} :
    checkChronology fetchedAt previous candles = .ok () ↔
      Chronological fetchedAt candles ∧
        ∀ before ∈ previous, ∀ candle ∈ candles, before < candle.start := by
  induction candles generalizing previous with
  | nil => simpa [checkChronology] using (⟨.nil, by simp⟩ : Chronological fetchedAt [])
  | cons candle candles induction =>
      simp only [checkChronology, bind_eq_ok, ensure_eq_ok, exists_and_left, exists_const,
        induction, Option.mem_some_iff, forall_eq']
      constructor
      · rintro ⟨⟨nonneg, minute, bounded, after⟩, rest, later⟩
        refine ⟨⟨List.pairwise_cons.mpr ⟨later, rest.increasing⟩,
          List.forall_mem_cons.mpr ⟨⟨nonneg, minute, bounded⟩, rest.minutes⟩⟩, ?_⟩
        intro before isBefore
        refine List.forall_mem_cons.mpr ⟨after before isBefore, fun row member => ?_⟩
        exact (after before isBefore).trans (later row member)
      · rintro ⟨rows, after⟩
        have increasing := List.pairwise_cons.mp rows.increasing
        have minutes := List.forall_mem_cons.mp rows.minutes
        refine ⟨⟨minutes.1.1, minutes.1.2.1, minutes.1.2.2, ?_⟩,
          ⟨increasing.2, minutes.2⟩, increasing.1⟩
        exact fun before isBefore => after before isBefore candle List.mem_cons_self

def Candle.Empty (candle : Candle) : Prop :=
  candle.count = 0 ∧ (∃ whole fraction, IsDecimal candle.volume whole fraction) ∧
    exactValue candle.volume = 0

structure Candle.Chosen (candle : Candle) (fetchedAt : Int) (rate : XmrBtcRate) : Prop where
  closed : candle.start + 60 ≤ fetchedAt
  counted : 0 < candle.count
  traded : (∃ whole fraction, IsDecimal candle.volume whole fraction) ∧
    0 < exactValue candle.volume
  ordered : candle.Ordered
  priced : LowestTerms rate.numerator rate.denominator (exactValue candle.vwap * satsPerBtc)
  source : rate.source = krakenSource
  observed : rate.observedAt = candle.start

theorem newestRate_chosen {fetchedAt : Int} {candles : List Candle} {rate : XmrBtcRate}
    (found : newestRate fetchedAt candles = .ok rate) :
    ∃ skipped chosen older, candles = skipped ++ chosen :: older ∧
      (∀ candle ∈ skipped, candle.Empty) ∧ chosen.Chosen fetchedAt rate := by
  induction candles with
  | nil => cases found
  | cons candle older induction =>
      rw [newestRate, bind_eq_ok] at found
      rcases found with ⟨volume, volumes, found⟩
      rcases decimal_exact volumes with ⟨isDecimal, lowest⟩
      split at found
      case isTrue empty =>
        rcases induction found with ⟨skipped, chosen, rest, rows, allEmpty, isChosen⟩
        have noVolume : exactValue candle.volume = 0 := by
          rw [← lowest.exact, empty.2]
          simp
        refine ⟨candle :: skipped, chosen, rest, by rw [rows, List.cons_append], ?_, isChosen⟩
        exact List.forall_mem_cons.mpr ⟨⟨empty.1, isDecimal, noVolume⟩, allEmpty⟩
      case isFalse =>
        simp only [bind_eq_ok, ensure_eq_ok] at found
        rcases found with ⟨_, ⟨counted, traded⟩, _, ⟨stop, stops, passed⟩, _, checked, built⟩
        rcases btcPerXmrDecimalRate_exact built with ⟨priced, source, observed⟩
        have minute : stop = candle.start + 60 := (checkedAddI64_eq_some.mp stops).2.2
        refine ⟨[], candle, older, rfl, by simp, {
          closed := minute ▸ passed
          counted := UInt64.pos_iff_ne_zero.mpr counted
          traded := ⟨isDecimal, (numerator_ne_zero lowest).mp traded⟩
          ordered := checkPrices_ordered checked
          priced := priced
          source := source
          observed := observed }⟩

/-! ## Responses -/

theorem RateEvidence.new_fields [QuoteJson] {rate : XmrBtcRate} {fetchedAt : Int} {rawJson : String}
    {evidence : RateEvidence} (built : RateEvidence.new rate fetchedAt rawJson = .ok evidence) :
    evidence.rate = rate ∧ evidence.fetchedAt = fetchedAt ∧ evidence.rawJson = rawJson := by
  unfold RateEvidence.new at built
  split at built
  · split at built
    · cases built
      exact ⟨rfl, rfl, rfl⟩
    · cases built
  · cases built

theorem dropLast_split {earlier skipped candles : List Candle} {chosen : Candle}
    (nonempty : candles ≠ []) (rows : candles.dropLast.reverse = skipped ++ chosen :: earlier) :
    candles = earlier.reverse ++ chosen :: (skipped.reverse ++ [candles.getLast nonempty]) := by
  have ordered := congrArg List.reverse rows
  rw [List.reverse_reverse] at ordered
  conv_lhs => rw [← List.dropLast_append_getLast nonempty, ordered]
  simp

/-- An accepted response yields the exact price of its newest nonempty closed
candle, and no other price. -/
theorem oracle_prices_exactly [QuoteJson] [OhlcJson] {rawJson : String} {fetchedAt : Int}
    {evidence : RateEvidence} (accepted : parseKrakenOhlc rawJson fetchedAt = .ok evidence) :
    ∃ response earlier chosen skipped last,
      OhlcJson.envelope rawJson = some response ∧
      response.candles = earlier ++ chosen :: (skipped ++ [last]) ∧
      Chronological fetchedAt response.candles ∧
      (∀ candle ∈ skipped, Candle.Empty candle) ∧
      Candle.Chosen chosen fetchedAt evidence.rate ∧
      evidence.fetchedAt = fetchedAt ∧ evidence.rawJson = rawJson := by
  simp only [parseKrakenOhlc, bind_eq_ok, ensure_eq_ok, require_eq_ok, mapError_eq_ok]
    at accepted
  rcases accepted with ⟨_, _, response, parsed, _, ⟨_, _, usable, _⟩, _, chronology, rate, found,
    recorded⟩
  rcases RateEvidence.new_fields recorded with ⟨rfl, fetched, raw⟩
  rcases newestRate_chosen found with ⟨skipped, chosen, earlier, rows, allEmpty, isChosen⟩
  have nonempty : response.candles ≠ [] := List.ne_nil_of_length_pos (by omega)
  exact ⟨response, earlier.reverse, chosen, skipped.reverse, response.candles.getLast nonempty,
    parsed, dropLast_split nonempty rows, (checkChronology_eq_ok.mp chronology).1,
    fun candle member => allEmpty candle (List.mem_reverse.mp member), isChosen, fetched, raw⟩

/-! ## An accepted response -/

/-- Three rows, of which the second is empty and the last is unfinished. -/
def exampleOhlcText : String :=
  "\x7b\"error\":[],\"result\":\x7b\"XXMRXXBT\":[" ++
  "[900,\"0.0025\",\"0.003\",\"0.002\",\"0.0026\",\"0.0025\",\"1.2\",2]," ++
  "[960,\"0.0026\",\"0.0026\",\"0.0026\",\"0.0026\",\"0.0\",\"0.0\",0]," ++
  "[1020,\"999\",\"999\",\"999\",\"999\",\"999\",\"1\",1]],\"last\":960\x7d\x7d"

def exampleCandles : List Candle :=
  [⟨900, "0.0025", "0.003", "0.002", "0.0026", "0.0025", "1.2", 2⟩,
    ⟨960, "0.0026", "0.0026", "0.0026", "0.0026", "0.0", "0.0", 0⟩,
    ⟨1020, "999", "999", "999", "999", "999", "1", 1⟩]

@[reducible] def exampleOhlcJson : OhlcJson where
  envelope rawJson := if rawJson = exampleOhlcText then some ⟨[], exampleCandles, 960⟩ else none

@[reducible] def exampleOhlcSyntax : QuoteJson where
  readIdentity := identityCodec.decode
  readDocument := documentCodec.decode
  isJson text := text = exampleOhlcText
  sha256 _ := ""
  readIdentity_written := identityCodec.decode_encode
  readDocument_written := documentCodec.decode_encode

/-- The rate is that of the first row, and the empty one after it is skipped. -/
theorem oracle_prices_exactly_example :
    ∃ evidence, @parseKrakenOhlc exampleOhlcJson exampleOhlcSyntax exampleOhlcText 1040 =
      .ok evidence ∧ ∃ earlier chosen skipped last,
        exampleCandles = earlier ++ chosen :: (skipped ++ [last]) ∧
        Candle.Chosen chosen 1040 evidence.rate ∧ chosen.start = 900 ∧
        ∃ candle ∈ skipped, candle.Empty ∧ candle.start = 960 := by
  have observed : (@parseKrakenOhlc exampleOhlcJson exampleOhlcSyntax exampleOhlcText
      1040).toOption.map (fun evidence => evidence.rate.observedAt) = some 900 := by
    decide +kernel
  cases outcome : @parseKrakenOhlc exampleOhlcJson exampleOhlcSyntax exampleOhlcText 1040 with
  | error error =>
      rw [outcome] at observed
      cases observed
  | ok evidence =>
      rcases @oracle_prices_exactly exampleOhlcSyntax exampleOhlcJson _ _ _ outcome with
        ⟨response, earlier, chosen, skipped, last, parsed, rows, _, allEmpty, isChosen, _⟩
      have isResponse : response = ⟨[], exampleCandles, 960⟩ :=
        Option.some.inj (parsed.symm.trans (if_pos rfl))
      rw [isResponse] at rows
      rw [outcome] at observed
      have isFirst : chosen.start = 900 :=
        isChosen.observed.symm.trans (Option.some.inj observed)
      refine ⟨evidence, rfl, earlier, chosen, skipped, last, rows, isChosen, isFirst, ?_⟩
      cases earlier with
      | nil =>
          have tail := (List.cons.inj rows).2
          cases skipped with
          | nil => cases congrArg List.length tail
          | cons candle rest =>
              have isEmpty := allEmpty candle List.mem_cons_self
              rw [← (List.cons.inj tail).1] at isEmpty ⊢
              exact ⟨_, List.mem_cons_self, isEmpty, rfl⟩
      | cons first rest =>
          have tail : exampleCandles.tail = rest ++ chosen :: (skipped ++ [last]) :=
            (List.cons.inj rows).2
          have late : ∀ candle ∈ exampleCandles.tail, candle.start ≠ 900 := by decide
          have member : chosen ∈ exampleCandles.tail := by
            rw [tail]
            exact List.mem_append_right _ List.mem_cons_self
          exact absurd isFirst (late chosen member)

end LightningGoats
