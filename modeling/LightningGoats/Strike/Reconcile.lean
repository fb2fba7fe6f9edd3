import LightningGoats.Ledger.Inbox
import LightningGoats.Ledger.Payments
import LightningGoats.Strike.Amounts

/-! # Reconciliation of receives

What Strike answers about a receive request and its receives is compared with the
invoice that was issued. Every contradiction is an error. What is left is the
amount of the receive and, for a Lightning receive, its payment hash.
-/

namespace LightningGoats

open Outcome

/-! ## Answers -/

structure ProviderAmount where
  amount : String
  currency : String
  deriving DecidableEq, Repr

structure ProviderConversion where
  amount : String
  sourceCurrency : String
  targetCurrency : String
  deriving DecidableEq, Repr

structure Bolt11ReceiveRequest where
  invoice : String
  requestedAmount : Option ProviderAmount
  btcAmount : Option String
  descriptionHash : Option String
  paymentHash : String
  deriving DecidableEq, Repr

structure ReceiveRequestResponse where
  receiveRequestId : Uuid
  created : Option String
  targetCurrency : Option String
  bolt11 : Option Bolt11ReceiveRequest
  deriving DecidableEq, Repr

structure LightningReceive where
  invoice : String
  descriptionHash : Option String
  paymentHash : String
  deriving DecidableEq, Repr

structure StrikeReceive where
  receiveId : Uuid
  receiveRequestId : Uuid
  receiveType : String
  state : String
  amountReceived : ProviderAmount
  amountCredited : Option ProviderAmount
  conversionRate : Option ProviderConversion
  completed : Option String
  lightning : Option LightningReceive
  deriving DecidableEq, Repr

structure ReconciledStrikeReceive where
  receiveRequestId : Uuid
  receiveId : Uuid
  receiveType : String
  amountMsat : Nat
  paymentHash : Option String
  completedProvider : Option String
  received : ProviderAmount
  credited : Option ProviderAmount
  conversionRate : Option ProviderConversion
  deriving DecidableEq, Repr

inductive ProviderFailure
  | request
  | body
  | rateLimited
  | status (code : Nat)
  | malformed
  deriving DecidableEq, Repr

inductive StrikeError
  | provider (operation : String) (failure : ProviderFailure)
  | hex32 (field : String)
  | amount (error : BtcAmountError)
  | requestedAmount (error : BtcAmountError)
  | btcAmount (error : BtcAmountError)
  | invoiceSyntax
  | invoiceSignature
  | invoiceNetwork
  | invoiceAmount
  | invoicePaymentHash
  | invoiceDescription
  | targetCurrency
  | noBolt11
  | invoiceLength
  | descriptionHash
  | requestedCurrency
  | requestedMsat
  | btcAmountMsat
  | wrongRequest
  | wrongInvoice
  | wrongPaymentHash
  | noReceive
  | duplicateReceives
  | strayReceive
  | notCompleted (state : String)
  | receivedCurrency
  | evidence
  | conversion
  | lightningCurrency
  | lightningAmount
  | lightningCredited
  | noLightning
  | lightningPaymentHash
  | lightningInvoice
  | lightningDescription
  | p2pContract
  | p2pUncredited
  | p2pCurrency
  | p2pSats
  | p2pDisagrees
  | receiveType (other : String)
  | scanPage
  | createAmount
  | createExpiry
  | invoiceExpiry
  | invoiceFuture
  | invoiceExpired
  | clock
  deriving DecidableEq, Repr

def ProviderFailure.message (operation : String) : ProviderFailure → String
  | request => s!"Strike {operation} request failed"
  | body => "provider response exceeds size limit"
  | rateLimited => s!"Strike {operation} rate limited (HTTP 429)"
  | status code => s!"Strike {operation} failed with HTTP {code}"
  | malformed => s!"Strike {operation} returned malformed JSON"

def StrikeError.message : StrikeError → String
  | provider operation failure => failure.message operation
  | hex32 field => s!"{field} must be a 32-byte hex string"
  | amount error => error.message
  | requestedAmount _ => "invalid Strike requestedAmount BTC value"
  | btcAmount _ => "invalid Strike btcAmount"
  | invoiceSyntax => "invalid signed BOLT11 invoice"
  | invoiceSignature => "invalid BOLT11 signature"
  | invoiceNetwork => "BOLT11 network must be Bitcoin mainnet"
  | invoiceAmount => "BOLT11 amount differs from requested millisatoshis"
  | invoicePaymentHash => "BOLT11 payment hash differs from provider contract"
  | invoiceDescription => "BOLT11 must commit to the exact LNURL metadata hash"
  | targetCurrency => "Strike receive request targetCurrency is not BTC"
  | noBolt11 => "Strike receive request omitted bolt11"
  | invoiceLength => "Strike returned an invalid BOLT11 invoice length"
  | descriptionHash => "Strike returned a different descriptionHash than requested"
  | requestedCurrency => "Strike requestedAmount currency is not BTC"
  | requestedMsat => "Strike requestedAmount does not match requested millisatoshis"
  | btcAmountMsat => "Strike btcAmount does not match requested millisatoshis"
  | wrongRequest => "Strike receive request lookup returned the wrong ID"
  | wrongInvoice => "Strike authoritative invoice differs from stored issued invoice"
  | wrongPaymentHash => "Strike authoritative payment hash differs from stored issued invoice"
  | noReceive => "Strike did not return the referenced receiveId"
  | duplicateReceives => "Strike returned duplicate rows for one receiveId"
  | strayReceive => "Strike receive points to the wrong receive request"
  | notCompleted state => s!"Strike receive is not completed (state={state})"
  | receivedCurrency => "unsupported Strike received currency"
  | evidence => "invalid positive provider decimal"
  | conversion => "Strike conversion currencies contradict the credited target"
  | lightningCurrency => "Strike LIGHTNING receive must be denominated in BTC"
  | lightningAmount => "Strike completed LIGHTNING amount differs from issued invoice"
  | lightningCredited => "Strike LIGHTNING credited amount contradicts received amount"
  | noLightning => "Strike LIGHTNING receive omitted lightning details"
  | lightningPaymentHash =>
      "Strike completed receive payment hash does not match issued invoice"
  | lightningInvoice => "Strike completed receive invoice does not match issued invoice"
  | lightningDescription =>
      "Strike completed receive description hash does not match issued invoice"
  | p2pContract => "Strike P2P receive has an inconsistent target/type contract"
  | p2pUncredited => "Strike P2P omitted authoritative amountCredited"
  | p2pCurrency => "Strike P2P credited currency must be BTC"
  | p2pSats => "Strike P2P credited amount must be positive whole satoshis"
  | p2pDisagrees => "Strike BTC-to-BTC P2P received and credited amounts disagree"
  | receiveType other => s!"unexpected Strike receive type {other}; refusing feeder credit"
  | scanPage => "invalid receive scan page"
  | createAmount => "Strike receive amount must be greater than zero"
  | createExpiry => "Strike receive expiry must be greater than zero"
  | invoiceExpiry => "BOLT11 expiry differs from requested expiry"
  | invoiceFuture => "BOLT11 timestamp is too far in the future"
  | invoiceExpired => "BOLT11 is already expired"
  | clock => "second time provided was later than self"

/-! ## The signed invoice -/

inductive Currency
  | bitcoin
  | bitcoinTestnet
  | regtest
  | simnet
  | signet
  deriving DecidableEq, Repr

structure Bolt11Invoice where
  signed : Bool
  currency : Currency
  amountMilliSatoshis : Option Nat
  paymentHash : String
  descriptionHash : Option String
  durationSinceEpoch : Nat
  expiryTime : Nat
  expiresAt : Option Nat
  deriving DecidableEq, Repr

/-- The parser of signed invoices. -/
class Bolt11 where
  parse : String → Option Bolt11Invoice

def eqIgnoreAsciiCase (left right : String) : Prop :=
  left.toList.map Char.toLower = right.toList.map Char.toLower

instance (left right : String) : Decidable (eqIgnoreAsciiCase left right) :=
  inferInstanceAs (Decidable (left.toList.map Char.toLower = right.toList.map Char.toLower))

theorem toAsciiLowercase_eq {left right : String} (same : eqIgnoreAsciiCase left right) :
    toAsciiLowercase left = toAsciiLowercase right := by
  rw [toAsciiLowercase, toAsciiLowercase, ← String.toList_inj, String.toList_map,
    String.toList_map]
  exact same

def Bolt11.verify [Bolt11] (encoded : String) (amountMsat : Nat)
    (paymentHash descriptionHash : String) : Except StrikeError Bolt11Invoice := do
  let invoice ← require (parse encoded) .invoiceSyntax
  ensure (invoice.signed = true) .invoiceSignature
  ensure (invoice.currency = .bitcoin) .invoiceNetwork
  ensure (invoice.amountMilliSatoshis = some amountMsat ∧ amountMsat ≠ 0) .invoiceAmount
  ensure (eqIgnoreAsciiCase invoice.paymentHash paymentHash) .invoicePaymentHash
  ensure (∃ hash ∈ invoice.descriptionHash, eqIgnoreAsciiCase hash descriptionHash)
    .invoiceDescription
  return invoice

/-! ## Checks -/

def checkOptional {α : Type} (value : Option α) (check : α → Except StrikeError Unit) :
    Except StrikeError Unit :=
  match value with
  | some found => check found
  | none => return

def checkHex32 (value field : String) : Except StrikeError Unit :=
  ensure (isHex32 value = true) (.hex32 field)

def msatOf (describe : BtcAmountError → StrikeError) (text : String) : Except StrikeError Nat :=
  ((btcDecimalToMsat text).map UInt64.toNat).mapError describe

def validateDecimalEvidence (value : String) : Except StrikeError Unit :=
  let parts := Text.split '.' value
  let whole := parts[0]?.getD ""
  let fraction := parts[1]?
  ensure (value.utf8ByteSize ≤ 64 ∧ whole ≠ "" ∧ whole.toList.all Char.isDigit = true ∧
    (∀ digits ∈ fraction, digits ≠ "" ∧ digits.toList.all Char.isDigit = true) ∧
    parts[2]? = none ∧ value.toList.any (fun digit => '1' ≤ digit && digit ≤ '9') = true)
    .evidence

def validateProviderAmount (amount : ProviderAmount) : Except StrikeError Unit := do
  ensure (amount.currency ∈ ["BTC", "USD", "EUR", "USDT", "GBP", "AUD"]) .receivedCurrency
  validateDecimalEvidence amount.amount

def validateReceiveRequestResponse [Bolt11] (response : ReceiveRequestResponse)
    (amountMsat : Nat) (expectedDescriptionHash : String) : Except StrikeError Bolt11Invoice := do
  ensure (∀ currency ∈ response.targetCurrency, currency = "BTC") .targetCurrency
  let bolt11 ← require response.bolt11 .noBolt11
  ensure (bolt11.invoice ≠ "" ∧ bolt11.invoice.utf8ByteSize ≤ 8192) .invoiceLength
  checkHex32 bolt11.paymentHash "Strike paymentHash"
  let verified ← Bolt11.verify bolt11.invoice amountMsat bolt11.paymentHash
    expectedDescriptionHash
  checkOptional bolt11.descriptionHash fun hash => do
    checkHex32 hash "Strike descriptionHash"
    ensure (eqIgnoreAsciiCase hash expectedDescriptionHash) .descriptionHash
  checkOptional bolt11.requestedAmount fun amount => do
    ensure (amount.currency = "BTC") .requestedCurrency
    let returned ← msatOf .requestedAmount amount.amount
    ensure (returned = amountMsat) .requestedMsat
  checkOptional bolt11.btcAmount fun amount => do
    let returned ← msatOf .btcAmount amount
    ensure (returned = amountMsat) .btcAmountMsat
  return verified

def validateStoredRequest [Bolt11] (response : ReceiveRequestResponse)
    (stored : StoredStrikeReceiveRequest) : Except StrikeError Unit := do
  ensure (response.receiveRequestId = stored.receiveRequestId) .wrongRequest
  let _ ← validateReceiveRequestResponse response stored.amountMsat stored.descriptionHash
  let bolt11 ← require response.bolt11 .noBolt11
  ensure (bolt11.invoice = stored.invoice) .wrongInvoice
  ensure (eqIgnoreAsciiCase bolt11.paymentHash stored.paymentHash) .wrongPaymentHash

def findReceive (receiveId : Uuid) (items : List StrikeReceive) :
    Except StrikeError StrikeReceive := do
  let rows := items.filter fun item => item.receiveId = receiveId
  let receive ← require rows[0]? .noReceive
  ensure (rows[1]? = none) .duplicateReceives
  return receive

def receivePage (id : Uuid) (items : List StrikeReceive) :
    Except StrikeError (List StrikeReceive) := do
  ensure (items.length ≤ 100 ∧ ∀ receive ∈ items, receive.receiveRequestId = id) .scanPage
  return items

/-! ## Reconciliation -/

def reconcileLightning (stored : StoredStrikeReceiveRequest) (receive : StrikeReceive) :
    Except StrikeError (Nat × Option String) := do
  ensure (receive.amountReceived.currency = "BTC") .lightningCurrency
  let amountMsat ← msatOf .amount receive.amountReceived.amount
  ensure (amountMsat = stored.amountMsat) .lightningAmount
  checkOptional receive.amountCredited fun credited => do
    ensure (credited.currency = "BTC") .lightningCredited
    let creditedMsat ← msatOf .amount credited.amount
    ensure (creditedMsat = amountMsat) .lightningCredited
  let lightning ← require receive.lightning .noLightning
  checkHex32 lightning.paymentHash "Strike receive paymentHash"
  ensure (eqIgnoreAsciiCase lightning.paymentHash stored.paymentHash) .lightningPaymentHash
  ensure (lightning.invoice = stored.invoice) .lightningInvoice
  ensure (∀ hash ∈ lightning.descriptionHash, eqIgnoreAsciiCase hash stored.descriptionHash)
    .lightningDescription
  return (amountMsat, some (toAsciiLowercase lightning.paymentHash))

/-- A receive from another Strike account is worth what it was credited, in
whole sats. -/
def reconcileP2p (request : ReceiveRequestResponse) (receive : StrikeReceive) :
    Except StrikeError (Nat × Option String) := do
  ensure (request.targetCurrency = some "BTC" ∧ receive.lightning = none) .p2pContract
  let credited ← require receive.amountCredited .p2pUncredited
  ensure (credited.currency = "BTC") .p2pCurrency
  let amountMsat ← msatOf .amount credited.amount
  ensure (amountMsat ≠ 0 ∧ amountMsat % 1000 = 0) .p2pSats
  if receive.amountReceived.currency = "BTC" then do
    let received ← msatOf .amount receive.amountReceived.amount
    ensure (received = amountMsat) .p2pDisagrees
  return (amountMsat, none)

def reconcileType (request : ReceiveRequestResponse) (stored : StoredStrikeReceiveRequest)
    (receive : StrikeReceive) : Except StrikeError (Nat × Option String) :=
  if receive.receiveType = "LIGHTNING" then reconcileLightning stored receive
  else if receive.receiveType = "P2P" then reconcileP2p request receive
  else throw (.receiveType receive.receiveType)

structure ReceiveAnswers where
  request : Except ProviderFailure ReceiveRequestResponse
  receives : Except ProviderFailure (List StrikeReceive)

def reconcileCompletedReceive [Bolt11] (stored : StoredStrikeReceiveRequest) (receiveId : Uuid)
    (answers : ReceiveAnswers) : Except StrikeError ReconciledStrikeReceive := do
  let request ← answers.request.mapError (.provider "find receive request")
  validateStoredRequest request stored
  let items ← answers.receives.mapError (.provider "find completed receive")
  let receive ← findReceive receiveId items
  ensure (receive.receiveRequestId = stored.receiveRequestId) .strayReceive
  ensure (receive.state = "COMPLETED") (.notCompleted receive.state)
  validateProviderAmount receive.amountReceived
  checkOptional receive.conversionRate fun rate => do
    validateDecimalEvidence rate.amount
    ensure (rate.sourceCurrency = receive.amountReceived.currency ∧ rate.targetCurrency = "BTC")
      .conversion
  let worth ← reconcileType request stored receive
  return {
    receiveRequestId := stored.receiveRequestId
    receiveId := receiveId
    receiveType := receive.receiveType
    amountMsat := worth.1
    paymentHash := worth.2
    completedProvider := receive.completed
    received := receive.amountReceived
    credited := receive.amountCredited
    conversionRate := receive.conversionRate }

/-! ## The payment -/

def strikeSource : String := "strike"

/-- The context of a settlement as a JSON text. -/
class ReceiveJson where
  context : ReconciledStrikeReceive → String

def ReconciledStrikeReceive.payment [ReceiveJson] (receive : ReconciledStrikeReceive)
    (stored : StoredStrikeReceiveRequest) : SettledPayment where
  source := strikeSource
  sourceId := receive.receiveId.toText
  paymentHash := receive.paymentHash
  addressUser := stored.addressUser
  creditPool := stored.creditPool
  amountMsat := receive.amountMsat
  settledAt := none
  contextJson := some (ReceiveJson.context receive)

/-! ## What reconciliation establishes -/

/-- A text states an amount of bitcoin that is worth so many millisatoshis. -/
def IsMsat (text : String) (msat : Nat) : Prop :=
  ∃ whole fraction, IsBtcAmount text whole fraction ∧
    (msat : ℚ) = Decimal.value whole (fraction.getD []) * 10 ^ 11

theorem msatOf_isMsat {describe : BtcAmountError → StrikeError} {text : String} {msat : Nat}
    (converts : msatOf describe text = .ok msat) : IsMsat text msat := by
  rw [msatOf, mapError_eq_ok] at converts
  cases converted : btcDecimalToMsat text with
  | error error =>
      rw [converted] at converts
      cases converts
  | ok exact =>
      rw [converted] at converts
      cases converts
      exact btcDecimalToMsat_eq_ok.mp converted

theorem checkOptional_eq_ok {α : Type} {value : Option α} {check : α → Except StrikeError Unit}
    {result : Unit} :
    checkOptional value check = .ok result ↔ ∀ found ∈ value, check found = .ok result := by
  cases value with
  | none => simp [checkOptional, pure, Except.pure]
  | some found => simp [checkOptional]

theorem findReceive_eq_ok {receiveId : Uuid} {items : List StrikeReceive}
    {receive : StrikeReceive} : findReceive receiveId items = .ok receive ↔
      (items.filter fun item => item.receiveId = receiveId) = [receive] := by
  simp only [findReceive, bind_eq_ok, require_eq_ok, ensure_eq_ok, pure_eq_ok]
  constructor
  · rintro ⟨found, first, _, noSecond, rfl⟩
    cases rows : items.filter fun item => item.receiveId = receiveId with
    | nil =>
        rw [rows] at first
        cases first
    | cons head rest =>
        rw [rows] at first noSecond
        cases rest with
        | nil =>
            cases first
            rfl
        | cons second others => cases noSecond
  · intro only
    rw [only]
    exact ⟨receive, rfl, .unit, rfl, rfl⟩

section Reconciles

variable [Bolt11] {stored : StoredStrikeReceiveRequest} {receiveId : Uuid}
  {answers : ReceiveAnswers} {request : ReceiveRequestResponse} {receive : StrikeReceive}
  {result : ReconciledStrikeReceive}

/-- The one completed receive of the request that Strike has under the identifier. -/
structure CompletedReceive (stored : StoredStrikeReceiveRequest) (receiveId : Uuid)
    (answers : ReceiveAnswers) (receive : StrikeReceive) : Prop where
  answered : ∃ items, answers.receives = .ok items ∧
    (items.filter fun item => item.receiveId = receiveId) = [receive]
  belongs : receive.receiveRequestId = stored.receiveRequestId
  completed : receive.state = "COMPLETED"

structure PaysInvoice (stored : StoredStrikeReceiveRequest) (receive : StrikeReceive)
    (amountMsat : Nat) (paymentHash : Option String) : Prop where
  amount : amountMsat = stored.amountMsat
  received : receive.amountReceived.currency = "BTC" ∧
    IsMsat receive.amountReceived.amount amountMsat
  hash : paymentHash = some (toAsciiLowercase stored.paymentHash)

structure PaysBalance (receive : StrikeReceive) (amountMsat : Nat)
    (paymentHash : Option String) : Prop where
  credited : ∃ credited ∈ receive.amountCredited, credited.currency = "BTC" ∧
    IsMsat credited.amount amountMsat
  wholeSats : 0 < amountMsat ∧ amountMsat % 1000 = 0
  hash : paymentHash = none

omit [Bolt11] in
theorem reconcileLightning_pays {amountMsat : Nat} {paymentHash : Option String}
    (ran : reconcileLightning stored receive = .ok (amountMsat, paymentHash)) :
    PaysInvoice stored receive amountMsat paymentHash := by
  simp only [reconcileLightning, bind_eq_ok, ensure_eq_ok, require_eq_ok, pure_eq_ok,
    Prod.mk.injEq] at ran
  rcases ran with ⟨_, inBitcoin, _, converts, _, isAmount, _, _, _, _, _, _, _, sameHash, _, _,
    _, _, rfl, rfl⟩
  exact ⟨isAmount, ⟨inBitcoin, msatOf_isMsat converts⟩,
    congrArg some (toAsciiLowercase_eq sameHash)⟩

omit [Bolt11] in
theorem reconcileP2p_pays {amountMsat : Nat} {paymentHash : Option String}
    (ran : reconcileP2p request receive = .ok (amountMsat, paymentHash)) :
    PaysBalance receive amountMsat paymentHash := by
  simp only [reconcileP2p, bind_eq_ok, ensure_eq_ok, require_eq_ok] at ran
  rcases ran with ⟨_, _, credited, isCredited, _, inBitcoin, creditedMsat, converts, _,
    wholeSats, ran⟩
  have result : creditedMsat = amountMsat ∧ none = paymentHash := by
    split at ran
    · simp only [bind_eq_ok, pure_eq_ok, Prod.mk.injEq] at ran
      rcases ran with ⟨_, _, _, _, result⟩
      exact result
    · simpa using ran
  rcases result with ⟨rfl, rfl⟩
  exact ⟨⟨credited, isCredited, inBitcoin, msatOf_isMsat converts⟩,
    ⟨Nat.pos_of_ne_zero wholeSats.1, wholeSats.2⟩, rfl⟩

/-- A result of reconciliation is about the completed receive, and worth what it
pays. -/
structure Reconciles (stored : StoredStrikeReceiveRequest) (receiveId : Uuid)
    (answers : ReceiveAnswers) (receive : StrikeReceive) (result : ReconciledStrikeReceive) :
    Prop where
  found : CompletedReceive stored receiveId answers receive
  sameId : result.receiveId = receiveId
  sameType : result.receiveType = receive.receiveType
  pays : (receive.receiveType = "LIGHTNING" ∧
      PaysInvoice stored receive result.amountMsat result.paymentHash) ∨
    (receive.receiveType = "P2P" ∧ PaysBalance receive result.amountMsat result.paymentHash)

theorem reconcileCompletedReceive_reconciles
    (ran : reconcileCompletedReceive stored receiveId answers = .ok result) :
    ∃ receive, Reconciles stored receiveId answers receive result := by
  simp only [reconcileCompletedReceive, bind_eq_ok, mapError_eq_ok, ensure_eq_ok,
    findReceive_eq_ok, pure_eq_ok] at ran
  rcases ran with ⟨request, _, _, _, items, isItems, receive, only, _, belongs, _, completed, _,
    _, _, _, ⟨amountMsat, paymentHash⟩, pays, rfl⟩
  refine ⟨receive, ⟨⟨items, isItems, only⟩, belongs, completed⟩, rfl, rfl, ?_⟩
  rw [reconcileType] at pays
  split at pays
  · rename_i isLightning
    exact .inl ⟨isLightning, reconcileLightning_pays pays⟩
  · split at pays
    · rename_i isP2p
      exact .inr ⟨isP2p, reconcileP2p_pays pays⟩
    · cases pays

end Reconciles

end LightningGoats
