import LightningGoats.Quotes.Document

/-! # Stored quotes

A stored quote can only be obtained by decoding its document, which prices the
target again at the recorded rate and compares every derived field.
-/

namespace LightningGoats

open Outcome Text

def maxRateEvidenceBytes : Nat := 256 * 1024

@[ext] structure RateEvidence where
  rate : XmrBtcRate
  fetchedAt : Int
  rawJson : String
  chronological : rate.observedAt ≤ fetchedAt
  nonempty : rawJson ≠ ""
  bounded : rawJson.utf8ByteSize ≤ maxRateEvidenceBytes
  deriving Repr

instance : DecidableEq RateEvidence :=
  fun _ _ => decidable_of_iff' _ RateEvidence.ext_iff

def RateEvidence.new [QuoteJson] (rate : XmrBtcRate) (fetchedAt : Int) (rawJson : String) :
    Except QuoteError RateEvidence :=
  if bounds : rate.observedAt ≤ fetchedAt ∧ rawJson ≠ "" ∧
      rawJson.utf8ByteSize ≤ maxRateEvidenceBytes then
    if QuoteJson.isJson rawJson = true then
      .ok ⟨rate, fetchedAt, rawJson, bounds.1, bounds.2.1, bounds.2.2⟩
    else .error .evidenceJson
  else .error .evidenceBounds

def validateRate (rate : XmrBtcRate) (policy : QuotePolicy) : Except QuoteError Unit :=
  ensure (policy.minSatsPerXmr * rate.denominator ≤ rate.numerator ∧
    rate.numerator ≤ policy.maxSatsPerXmr * rate.denominator) .rateBounds

/-! ## Decoding -/

structure QuoteParts where
  document : Document
  identity : Identity
  quote : XmrQuote
  deriving DecidableEq

/-- A quote that is within its policy and what its document says it is. -/
def QuoteParts.Agrees [QuoteJson] (parts : QuoteParts) : Prop :=
  parts.document.policy.minTargetSats ≤ parts.identity.targetSats ∧
    parts.identity.targetSats ≤ parts.document.policy.maxTargetSats ∧
    parts.document.expiresAt - parts.document.issuedAt =
      parts.document.policy.lifetimeSeconds ∧
    parts.document.observedAt ≤ parts.document.fetchedAt ∧
    parts.document.fetchedAt ≤ parts.document.issuedAt ∧
    parts.document.expectedAtomic = parts.quote.terms.expectedAtomic ∧
    parts.document.expectedAtomic ≤ parts.document.policy.maxPiconero ∧
    parts.document.evidence.utf8ByteSize ≤ maxRateEvidenceBytes ∧
    parts.document.evidence ≠ "" ∧
    parts.document.evidenceSha256 = QuoteJson.sha256 parts.document.evidence

instance [QuoteJson] (parts : QuoteParts) : Decidable parts.Agrees :=
  inferInstanceAs (Decidable (_ ∧ _))

def readQuote [QuoteJson] (documentJson identityJson : String) :
    Except QuoteError QuoteParts := do
  let document ← require (QuoteJson.readDocument documentJson) .malformed
  ensure (document.version = 1 ∧ document.identity = identityJson) .documentMismatch
  let identity ← require (QuoteJson.readIdentity identityJson) .malformed
  document.policy.validate
  let numerator ← require (parseU64 document.numerator) .malformed
  let denominator ← require (parseU64 document.denominator) .malformed
  let rate ← liftTerms
    (XmrBtcRate.new numerator denominator document.source document.observedAt)
  validateRate rate document.policy
  let quote ← liftTerms (rate.quote identity.targetSats document.issuedAt document.expiresAt
    document.policy.maxRateAgeSeconds)
  ensure (QuoteParts.Agrees ⟨document, identity, quote⟩) .termsMismatch
  return ⟨document, identity, quote⟩

structure StoredXmrQuote [QuoteJson] where
  documentJson : String
  parts : QuoteParts
  decoded : readQuote documentJson parts.document.identity = .ok parts
  deriving DecidableEq

theorem readQuote_eq_ok [QuoteJson] {documentJson identityJson : String} {parts : QuoteParts} :
    readQuote documentJson identityJson = .ok parts ↔
      QuoteJson.readDocument documentJson = some parts.document ∧
        parts.document.version = 1 ∧ parts.document.identity = identityJson ∧
        QuoteJson.readIdentity identityJson = some parts.identity ∧
        parts.document.policy.Valid ∧
        (∃ numerator, parseU64 parts.document.numerator = some numerator ∧
          ∃ denominator, parseU64 parts.document.denominator = some denominator ∧
            XmrBtcRate.new numerator denominator parts.document.source
              parts.document.observedAt = .ok parts.quote.rate) ∧
        validateRate parts.quote.rate parts.document.policy = .ok () ∧
        parts.quote.rate.quote parts.identity.targetSats parts.document.issuedAt
          parts.document.expiresAt parts.document.policy.maxRateAgeSeconds = .ok parts.quote ∧
        parts.Agrees := by
  simp only [readQuote, QuotePolicy.validate, bind_eq_ok, require_eq_ok, ensure_eq_ok,
    liftTerms_eq_ok, pure_eq_ok]
  constructor
  · rintro ⟨document, isDocument, _, ⟨version, sameIdentity⟩, identity, isIdentity, _, valid,
      numerator, isNumerator, denominator, isDenominator, rate, isRate, _, inBounds, quote,
      quoted, _, agrees, rfl⟩
    rcases XmrBtcRate.quote_fields quoted with ⟨rfl, _⟩
    exact ⟨isDocument, version, sameIdentity, isIdentity, valid,
      ⟨numerator, isNumerator, denominator, isDenominator, isRate⟩, inBounds, quoted, agrees⟩
  · rintro ⟨isDocument, version, sameIdentity, isIdentity, valid,
      ⟨numerator, isNumerator, denominator, isDenominator, isRate⟩, inBounds, quoted, agrees⟩
    exact ⟨_, isDocument, .unit, ⟨version, sameIdentity⟩, _, isIdentity, .unit, valid, _,
      isNumerator, _, isDenominator, _, isRate, _, inBounds, _, quoted, .unit, agrees, rfl⟩

theorem Identity.new_fields {request : QuoteRequest} {context : QuoteContext}
    {identity : Identity} (isIdentity : Identity.new request context = .ok identity) :
    identity.id = request.id ∧ identity.targetSats = request.targetSats := by
  simp only [Identity.new, bind_eq_ok, pure_eq_ok] at isIdentity
  rcases isIdentity with ⟨_, _, rfl⟩
  exact ⟨rfl, rfl⟩

namespace StoredXmrQuote

variable [QuoteJson]

def decode (documentJson identityJson : String) : Except QuoteError StoredXmrQuote :=
  match isRead : readQuote documentJson identityJson with
  | .error error => .error error
  | .ok parts => .ok ⟨documentJson, parts, by
      rw [(readQuote_eq_ok.mp isRead).2.2.1]
      exact isRead⟩

theorem decode_eq_ok {documentJson identityJson : String} {stored : StoredXmrQuote} :
    decode documentJson identityJson = .ok stored ↔
      stored.documentJson = documentJson ∧ stored.parts.document.identity = identityJson := by
  unfold decode
  constructor
  · intro decoded
    split at decoded
    · cases decoded
    · rename_i parts isRead
      cases decoded
      exact ⟨rfl, (readQuote_eq_ok.mp isRead).2.2.1⟩
  · rintro ⟨rfl, rfl⟩
    split
    · rename_i error failed
      rw [stored.decoded] at failed
      cases failed
    · rename_i parts isRead
      have same := isRead
      rw [stored.decoded] at same
      cases stored
      cases same
      rfl

theorem eq_of_documentJson {left right : StoredXmrQuote}
    (same : left.documentJson = right.documentJson) : left = right := by
  have leftParts := readQuote_eq_ok.mp left.decoded
  have rightParts := readQuote_eq_ok.mp right.decoded
  have sameDocument : left.parts.document = right.parts.document := by
    have leftRead := leftParts.1
    rw [same, rightParts.1] at leftRead
    exact (Option.some.inj leftRead).symm
  have leftDecoded : decode right.documentJson right.parts.document.identity = .ok left :=
    decode_eq_ok.mpr ⟨same, by rw [sameDocument]⟩
  have rightDecoded : decode right.documentJson right.parts.document.identity = .ok right :=
    decode_eq_ok.mpr ⟨rfl, rfl⟩
  rw [leftDecoded] at rightDecoded
  cases rightDecoded
  rfl

def id (stored : StoredXmrQuote) : Uuid :=
  stored.parts.identity.id

def quote (stored : StoredXmrQuote) : XmrQuote :=
  stored.parts.quote

def identityJson (stored : StoredXmrQuote) : String :=
  stored.parts.document.identity

theorem identity_of_identityJson {stored : StoredXmrQuote} {identity : Identity}
    (written : stored.identityJson = identityCodec.encode identity) :
    stored.parts.identity = identity := by
  have isRead := (readQuote_eq_ok.mp stored.decoded).2.2.2.1
  have same : stored.parts.document.identity = identityCodec.encode identity := written
  rw [same, QuoteJson.readIdentity_written] at isRead
  exact (Option.some.inj isRead).symm

def fraction (atomic : Nat) : List Char :=
  let digits := Nat.toDigits 10 atomic
  ((List.replicate (12 - digits.length) '0' ++ digits).reverse.dropWhile (· = '0')).reverse

def formatXmr (atomic : Nat) : String :=
  let whole := atomic / piconeroPerXmr
  let fractional := atomic % piconeroPerXmr
  if fractional = 0 then toString whole
  else toString whole ++ "." ++ String.ofList (fraction fractional)

def creditIntent (stored : StoredXmrQuote) (receiveScope : String) :
    Except QuoteError XmrCreditIntent := do
  let network ← match stored.parts.identity.network with
    | "mainnet" => pure XmrNetwork.mainnet
    | "testnet" => pure XmrNetwork.testnet
    | "stagenet" => pure XmrNetwork.stagenet
    | _ => .error .invalidNetwork
  return {
    id := stored.id
    provider := stored.parts.identity.provider
    network := network
    accountScope := stored.parts.identity.accountScope
    receiveScope := receiveScope
    addressUser := stored.parts.identity.addressUser
    creditPool := "herd"
    quote := stored.quote
    maxCreditSats := stored.parts.document.policy.maxCreditSats }

theorem creditIntent_fields {stored : StoredXmrQuote} {receiveScope : String}
    {intent : XmrCreditIntent} (isIntent : stored.creditIntent receiveScope = .ok intent) :
    intent.network.asStr = stored.parts.identity.network ∧ intent = {
      id := stored.id
      provider := stored.parts.identity.provider
      network := intent.network
      accountScope := stored.parts.identity.accountScope
      receiveScope := receiveScope
      addressUser := stored.parts.identity.addressUser
      creditPool := "herd"
      quote := stored.quote
      maxCreditSats := stored.parts.document.policy.maxCreditSats } := by
  unfold creditIntent at isIntent
  split at isIntent
  case h_4 => cases isIntent
  all_goals
    rename_i isNetwork
    cases isIntent
    exact ⟨isNetwork.symm, rfl⟩

end StoredXmrQuote

end LightningGoats
