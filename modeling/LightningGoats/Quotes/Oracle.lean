import LightningGoats.Foundation.Decimal
import LightningGoats.Quotes.Store

/-! # The Kraken oracle

Prices arrive as decimal texts and are read as exact fractions, never as
floating-point numbers. The rate is that of the newest nonempty closed
one-minute candle; the last row of a response is never finished.
-/

namespace LightningGoats

open Outcome

def krakenSource : String := "kraken-xmrbtc-closed-vwap-v1"

def satsPerBtc : Nat := 100000000

inductive OracleError
  | decimalLength
  | decimalRepresentation
  | decimalOverflow
  | numeratorOverflow
  | narrowing
  | zeroPrice
  | rateNumeratorOverflow
  | credit (error : CreditError)
  | responseBounds
  | schema
  | unusable
  | chronology
  | volumeCount
  | notClosed
  | prices
  | noCandle
  | evidence (error : QuoteError)
  deriving DecidableEq, Repr

def OracleError.message : OracleError → String
  | decimalLength => "decimal length outside bounds"
  | decimalRepresentation => "invalid decimal representation"
  | decimalOverflow => "decimal overflow"
  | numeratorOverflow => "decimal numerator overflow"
  | narrowing => "out of range integral type conversion attempted"
  | zeroPrice => "zero market price"
  | rateNumeratorOverflow => "sats-rate numerator overflow"
  | credit error => error.message
  | responseBounds => "rate response bounds exceeded"
  | schema => "unexpected Kraken OHLC schema"
  | unusable => "Kraken did not return usable closed candles"
  | chronology => "invalid candle chronology"
  | volumeCount => "inconsistent candle volume/count"
  | notClosed => "candle is not closed"
  | prices => "inconsistent candle prices"
  | noCandle => "no nonempty closed candle available"
  | evidence error => error.message

/-! ## Decimals -/

def checkedAddU128 (left right : Nat) : Option Nat :=
  if left + right < 2 ^ 128 then some (left + right) else none

def appendDigit (number : Nat) (digit : Char) : Option Nat :=
  (checkedMulU128 number 10).bind fun shifted =>
    checkedAddU128 shifted (digit.toNat - '0'.toNat)

def gcd (left right : Nat) : Nat :=
  if right = 0 then left else gcd right (left % right)
termination_by right
decreasing_by exact Nat.mod_lt left (Nat.pos_of_ne_zero ‹_›)

def decimal (value : String) : Except OracleError (UInt64 × UInt64) := do
  ensure (value ≠ "" ∧ value.utf8ByteSize ≤ 48) .decimalLength
  let (whole, fraction) := (Text.splitOnce '.' value).getD (value, "")
  ensure (whole ≠ "" ∧ whole.utf8ByteSize ≤ 20 ∧ ¬ ('.' ∈ value.toList ∧ fraction = "") ∧
    fraction.utf8ByteSize ≤ 18 ∧ (whole.toList ++ fraction.toList).all Char.isDigit = true)
    .decimalRepresentation
  let n ← require ((whole.toList ++ fraction.toList).foldlM appendDigit 0) .decimalOverflow
  let d := 10 ^ fraction.utf8ByteSize
  let divisor := gcd n d
  let numerator ← require (tryFromU64 (n / divisor)) .numeratorOverflow
  let denominator ← require (tryFromU64 (d / divisor)) .narrowing
  return (numerator, denominator)

def cmp (left right : UInt64 × UInt64) : Ordering :=
  compare (left.1.toNat * right.2.toNat) (right.1.toNat * left.2.toNat)

def btcPerXmrDecimalRate (price source : String) (observedAt : Int) :
    Except OracleError XmrBtcRate := do
  let (n, d) ← decimal price
  ensure (n ≠ 0) .zeroPrice
  let sats := n.toNat * satsPerBtc
  let divisor := gcd sats d.toNat
  let numerator ← require (tryFromU64 (sats / divisor)) .rateNumeratorOverflow
  let denominator ← require (tryFromU64 (d.toNat / divisor)) .narrowing
  (XmrBtcRate.new numerator denominator source observedAt).mapError .credit

/-! ## Candles -/

structure Candle where
  start : Int
  open' : String
  high : String
  low : String
  close : String
  vwap : String
  volume : String
  count : UInt64
  deriving DecidableEq, Repr

structure OhlcResponse where
  error : List String
  candles : List Candle
  last : Int
  deriving DecidableEq, Repr

/-- What the oracle asks of the JSON parser. -/
class OhlcJson where
  envelope : String → Option OhlcResponse

/-- The rows are whole minutes up to `fetchedAt`, each later than the one before. -/
def checkChronology (fetchedAt : Int) : Option Int → List Candle → Except OracleError Unit
  | _, [] => return ()
  | previous, candle :: candles => do
      ensure (0 ≤ candle.start ∧ candle.start % 60 = 0 ∧ candle.start ≤ fetchedAt ∧
        ∀ before ∈ previous, before < candle.start) .chronology
      checkChronology fetchedAt (some candle.start) candles

/-- The prices of a candle are ordered: low, then open, close and average, then high. -/
def checkPrices (candle : Candle) : Except OracleError Unit := do
  let open' ← decimal candle.open'
  let high ← decimal candle.high
  let low ← decimal candle.low
  let close ← decimal candle.close
  let vwap ← decimal candle.vwap
  let outside := fun price : UInt64 × UInt64 => cmp price low = .lt || cmp price high = .gt
  ensure (low.1 ≠ 0 ∧ cmp low high ≠ .gt ∧ [open', close, vwap].any outside = false) .prices

def isClosed (candle : Candle) (fetchedAt : Int) : Prop :=
  ∃ stop ∈ checkedAddI64 candle.start 60, stop ≤ fetchedAt

instance (candle : Candle) (fetchedAt : Int) : Decidable (isClosed candle fetchedAt) :=
  inferInstanceAs (Decidable (∃ stop ∈ checkedAddI64 candle.start 60, stop ≤ fetchedAt))

def newestRate (fetchedAt : Int) : List Candle → Except OracleError XmrBtcRate
  | [] => throw .noCandle
  | candle :: older => do
      let volume ← decimal candle.volume
      if candle.count = 0 ∧ volume.1 = 0 then newestRate fetchedAt older
      else do
        ensure (candle.count ≠ 0 ∧ volume.1 ≠ 0) .volumeCount
        ensure (isClosed candle fetchedAt) .notClosed
        checkPrices candle
        btcPerXmrDecimalRate candle.vwap krakenSource candle.start

def parseKrakenOhlc [OhlcJson] [QuoteJson] (rawJson : String) (fetchedAt : Int) :
    Except OracleError RateEvidence := do
  ensure (rawJson.utf8ByteSize ≤ maxRateEvidenceBytes ∧ 0 ≤ fetchedAt) .responseBounds
  let response ← require (OhlcJson.envelope rawJson) .schema
  ensure (response.error = [] ∧ 0 ≤ response.last ∧ 2 ≤ response.candles.length ∧
    response.candles.length ≤ 720) .unusable
  checkChronology fetchedAt none response.candles
  let rate ← newestRate fetchedAt response.candles.dropLast.reverse
  (RateEvidence.new rate fetchedAt rawJson).mapError .evidence

end LightningGoats
