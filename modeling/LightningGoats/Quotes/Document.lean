import LightningGoats.Foundation.Codec
import LightningGoats.Ledger.Credit

/-! # Quote documents

A quote request is identified by its trusted context, and a ready quote is the
JSON document that records the rate it was priced at, the evidence for that
rate and the policy of the moment. A document is checked again whenever it is
read, so a stored quote is exactly what its document says.
-/

namespace LightningGoats

open Outcome Text

/-! ## Errors -/

inductive QuoteError
  | ledger (error : LedgerError)
  | credit (error : CreditError)
  | clockReconciliation
  | clockRegressed
  | differentInputs
  | missingQuote
  | inProgress
  | failedOrExpired
  | targetBounds
  | capacity
  | reservationOverflow
  | reservationInvalid
  | rateRegressed
  | unknownRequest
  | quoteChanged
  | differentBinding
  | expiredOrFuture
  | invalidPolicy
  | invalidRequest
  | evidenceBounds
  | evidenceJson
  | malformed
  | documentMismatch
  | termsMismatch
  | invalidNetwork
  | rateBounds
  | busy
  | clockUnavailable
  | sourceUnavailable
  | sourceMismatch
  | expiryOverflow
  | amountLimit
  | storeUnavailable
  deriving DecidableEq, Repr

/-- The messages of the quote service. The last three stand for what the clock,
the rate source and the database report themselves. -/
def QuoteError.message : QuoteError → String
  | ledger error => error.message
  | credit error => error.message
  | clockReconciliation => "quote clock regressed; operator reconciliation required"
  | clockRegressed => "quote clock regressed"
  | differentInputs => "quote request ID is already bound to different inputs"
  | missingQuote => "missing persisted quote"
  | inProgress => "quote request is in progress; retry the same ID"
  | failedOrExpired =>
      "quote request failed or reservation expired; an explicit new request is required"
  | targetBounds => "quote target outside configured bounds"
  | capacity => "quote admission capacity exhausted"
  | reservationOverflow => "reservation expiry overflow"
  | reservationInvalid => "quote reservation no longer valid"
  | rateRegressed => "rate observation regressed or changed at the same timestamp"
  | unknownRequest => "unknown quote request"
  | quoteChanged => "quote changed before binding"
  | differentBinding => "quote already has a different receive binding"
  | expiredOrFuture => "cannot bind an expired or future quote"
  | invalidPolicy => "invalid XMR quote policy"
  | invalidRequest => "invalid quote request or trusted context"
  | evidenceBounds => "invalid rate evidence bounds or chronology"
  | evidenceJson => "invalid rate evidence JSON"
  | malformed => "invalid stored quote JSON"
  | documentMismatch => "stored quote identity/version mismatch"
  | termsMismatch => "stored quote evidence or terms mismatch"
  | invalidNetwork => "invalid quote network"
  | rateBounds => "rate outside configured bounds"
  | busy => "quote service busy"
  | sourceMismatch => "rate source identity or fetch chronology mismatch"
  | expiryOverflow => "quote expiry overflow"
  | amountLimit => "quoted amount exceeds configured limit"
  | clockUnavailable => "clock outside accounting range"
  | sourceUnavailable => "rate source deadline"
  | storeUnavailable => "database unavailable"

def liftLedger {α : Type} (outcome : Except LedgerError α) : Except QuoteError α :=
  outcome.mapError .ledger

def liftTerms {α : Type} (outcome : Except CreditError α) : Except QuoteError α :=
  outcome.mapError .credit

@[simp] theorem liftLedger_eq_ok {α : Type} {outcome : Except LedgerError α} {value : α} :
    liftLedger outcome = .ok value ↔ outcome = .ok value := by
  exact mapError_eq_ok

@[simp] theorem liftTerms_eq_ok {α : Type} {outcome : Except CreditError α} {value : α} :
    liftTerms outcome = .ok value ↔ outcome = .ok value := by
  exact mapError_eq_ok

/-! ## Policy -/

structure QuotePolicy where
  minTargetSats : Nat
  maxTargetSats : Nat
  maxCreditSats : Nat
  maxPiconero : Nat
  lifetimeSeconds : Nat
  maxRateAgeSeconds : Nat
  minSatsPerXmr : Nat
  maxSatsPerXmr : Nat
  admissionWindowSeconds : Nat
  maxRequestsPerWindow : Nat
  maxRequestsPerClientWindow : Nat
  maxPendingRequests : Nat
  maxRetainedRequests : Nat
  deriving DecidableEq, Repr

def QuotePolicy.Valid (policy : QuotePolicy) : Prop :=
  ¬ (policy.minTargetSats = 0 ∨ policy.maxTargetSats < policy.minTargetSats ∨
    policy.maxCreditSats < policy.maxTargetSats ∨ maxAccountingUnits < policy.maxCreditSats ∨
    policy.maxPiconero = 0 ∨ maxAccountingUnits < policy.maxPiconero ∨
    policy.minSatsPerXmr = 0 ∨ policy.maxSatsPerXmr < policy.minSatsPerXmr ∨
    maxAccountingUnits < policy.maxSatsPerXmr ∨
    policy.lifetimeSeconds = 0 ∨ 86400 < policy.lifetimeSeconds ∨
    policy.maxRateAgeSeconds = 0 ∨ 86400 < policy.maxRateAgeSeconds ∨
    policy.admissionWindowSeconds = 0 ∨ 86400 < policy.admissionWindowSeconds ∨
    policy.maxRequestsPerClientWindow = 0 ∨
    policy.maxRequestsPerWindow < policy.maxRequestsPerClientWindow ∨
    policy.maxPendingRequests = 0 ∨ policy.maxRequestsPerWindow < policy.maxPendingRequests ∨
    policy.maxRetainedRequests < policy.maxRequestsPerWindow)

instance : DecidablePred QuotePolicy.Valid := fun policy => by
  unfold QuotePolicy.Valid
  infer_instance

def QuotePolicy.validate (policy : QuotePolicy) : Except QuoteError Unit :=
  ensure policy.Valid .invalidPolicy

/-! ## Identity -/

structure QuoteRequest where
  id : Uuid
  clientBucket : String
  addressUser : String
  targetSats : Nat
  deriving DecidableEq, Repr

structure QuoteContext where
  provider : String
  accountScope : String
  network : XmrNetwork
  deriving DecidableEq, Repr

structure Identity where
  id : Uuid
  clientBucket : String
  addressUser : String
  targetSats : Nat
  provider : String
  accountScope : String
  network : String
  deriving DecidableEq, Repr

def isLowerHexDigit (character : Char) : Bool :=
  character.isDigit || ('a' ≤ character && character ≤ 'f')

def quoteUsers : List String :=
  ["herd", "dexter", "rowan", "cosmo", "newton", "nova"]

def QuoteRequest.Valid (request : QuoteRequest) : Prop :=
  request.id.isNil = false ∧ request.clientBucket.utf8ByteSize = 64 ∧
    request.clientBucket.toList.all isLowerHexDigit = true ∧
    request.addressUser ∈ quoteUsers ∧ request.targetSats ≠ 0 ∧
    request.targetSats ≤ maxAccountingUnits

instance (request : QuoteRequest) : Decidable request.Valid :=
  inferInstanceAs (Decidable (_ ∧ _))

def QuoteContext.Valid (context : QuoteContext) : Prop :=
  context.provider ≠ "" ∧ context.provider.utf8ByteSize ≤ 32 ∧
    context.provider.toList.all isSourceChar = true ∧ context.accountScope ≠ "" ∧
    context.accountScope.utf8ByteSize ≤ 256 ∧
    context.accountScope.toList.any isControl = false

instance (context : QuoteContext) : Decidable context.Valid :=
  inferInstanceAs (Decidable (_ ∧ _))

def Identity.new (request : QuoteRequest) (context : QuoteContext) :
    Except QuoteError Identity := do
  ensure (request.Valid ∧ context.Valid) .invalidRequest
  return {
    id := request.id
    clientBucket := request.clientBucket
    addressUser := request.addressUser
    targetSats := request.targetSats
    provider := context.provider
    accountScope := context.accountScope
    network := context.network.asStr }

/-! ## Documents -/

structure Document where
  version : Nat
  identity : String
  policy : QuotePolicy
  numerator : String
  denominator : String
  source : String
  observedAt : Int
  fetchedAt : Int
  issuedAt : Int
  expiresAt : Int
  expectedAtomic : Nat
  evidence : String
  evidenceSha256 : String
  deriving DecidableEq, Repr

/-! ## JSON -/

def uuidCodec : Codec Uuid :=
  Codec.quoted.mapped Uuid.toText Uuid.ofText Uuid.ofText_toText

def identityCodec : Codec Identity :=
  ((((((((uuidCodec.opened "\x7b\"id\":").followed ",\"client_bucket\":" .quoted).followed
    ",\"address_user\":" .quoted).followed ",\"target_sats\":" .nat).followed
    ",\"provider\":" .quoted).followed ",\"account_scope\":" .quoted).followed
    ",\"network\":" .quoted).closed "\x7d").mapped
    (fun identity => ((((((identity.id, identity.clientBucket), identity.addressUser),
      identity.targetSats), identity.provider), identity.accountScope), identity.network))
    (fun ((((((id, clientBucket), addressUser), targetSats), provider), accountScope),
      network) =>
      some ⟨id, clientBucket, addressUser, targetSats, provider, accountScope, network⟩)
    fun _ => rfl

def policyCodec : Codec QuotePolicy :=
  ((((((((((((((Codec.nat.opened "\x7b\"min_target_sats\":").followed
    ",\"max_target_sats\":" .nat).followed ",\"max_credit_sats\":" .nat).followed
    ",\"max_piconero\":" .nat).followed ",\"lifetime_seconds\":" .nat).followed
    ",\"max_rate_age_seconds\":" .nat).followed ",\"min_sats_per_xmr\":" .nat).followed
    ",\"max_sats_per_xmr\":" .nat).followed ",\"admission_window_seconds\":" .nat).followed
    ",\"max_requests_per_window\":" .nat).followed
    ",\"max_requests_per_client_window\":" .nat).followed
    ",\"max_pending_requests\":" .nat).followed
    ",\"max_retained_requests\":" .nat).closed "\x7d").mapped
    (fun policy => ((((((((((((policy.minTargetSats, policy.maxTargetSats),
      policy.maxCreditSats), policy.maxPiconero), policy.lifetimeSeconds),
      policy.maxRateAgeSeconds), policy.minSatsPerXmr), policy.maxSatsPerXmr),
      policy.admissionWindowSeconds), policy.maxRequestsPerWindow),
      policy.maxRequestsPerClientWindow), policy.maxPendingRequests),
      policy.maxRetainedRequests))
    (fun ((((((((((((minTargetSats, maxTargetSats), maxCreditSats), maxPiconero),
      lifetimeSeconds), maxRateAgeSeconds), minSatsPerXmr), maxSatsPerXmr),
      admissionWindowSeconds), maxRequestsPerWindow), maxRequestsPerClientWindow),
      maxPendingRequests), maxRetainedRequests) =>
      some ⟨minTargetSats, maxTargetSats, maxCreditSats, maxPiconero, lifetimeSeconds,
        maxRateAgeSeconds, minSatsPerXmr, maxSatsPerXmr, admissionWindowSeconds,
        maxRequestsPerWindow, maxRequestsPerClientWindow, maxPendingRequests,
        maxRetainedRequests⟩)
    fun _ => rfl

def documentCodec : Codec Document :=
  ((((((((((((((Codec.nat.opened "\x7b\"version\":").followed
    ",\"identity\":" .quoted).followed ",\"policy\":" policyCodec).followed
    ",\"numerator\":" .quoted).followed ",\"denominator\":" .quoted).followed
    ",\"source\":" .quoted).followed ",\"observed_at\":" .int).followed
    ",\"fetched_at\":" .int).followed ",\"issued_at\":" .int).followed
    ",\"expires_at\":" .int).followed ",\"expected_atomic\":" .nat).followed
    ",\"evidence\":" .quoted).followed ",\"evidence_sha256\":" .quoted).closed "\x7d").mapped
    (fun document => ((((((((((((document.version, document.identity), document.policy),
      document.numerator), document.denominator), document.source), document.observedAt),
      document.fetchedAt), document.issuedAt), document.expiresAt), document.expectedAtomic),
      document.evidence), document.evidenceSha256))
    (fun ((((((((((((version, identity), policy), numerator), denominator), source),
      observedAt), fetchedAt), issuedAt), expiresAt), expectedAtomic), evidence),
      evidenceSha256) =>
      some ⟨version, identity, policy, numerator, denominator, source, observedAt, fetchedAt,
        issuedAt, expiresAt, expectedAtomic, evidence, evidenceSha256⟩)
    fun _ => rfl

/-- What the quotes ask of the JSON parser, which reads back at least what was
written, and of the digest. -/
class QuoteJson where
  readIdentity : String → Option Identity
  readDocument : String → Option Document
  isJson : String → Bool
  sha256 : String → String
  readIdentity_written : ∀ identity, readIdentity (identityCodec.encode identity) = some identity
  readDocument_written : ∀ document, readDocument (documentCodec.encode document) = some document

end LightningGoats
