import LightningGoats.Quotes.Changes

/-! # The quote service

Calls of any clients and service instances share the store. A call goes through
its statements one at a time, and between any two of them the clock can be read
by others, transactions of others commit, and the call itself disappear. A
transaction can commit although its reply is lost.
-/

namespace LightningGoats

open Outcome Text

/-! ## Services and calls -/

structure QuoteService where
  context : QuoteContext
  policy : QuotePolicy
  sourceId : String
  policyValid : policy.Valid
  contextValid : context.Valid
  sourceValid : (XmrBtcRate.new 1 1 sourceId 0).isOk = true
  deriving DecidableEq

def QuoteService.new (context : QuoteContext) (policy : QuotePolicy) (sourceId : String) :
    Except QuoteError QuoteService :=
  if policyValid : policy.Valid then
    if contextValid : context.Valid then
      match built : XmrBtcRate.new 1 1 sourceId 0 with
      | .ok _ => .ok ⟨context, policy, sourceId, policyValid, contextValid, by rw [built]; rfl⟩
      | .error error => .error (.credit error)
    else .error .invalidRequest
  else .error .invalidPolicy

inductive QuoteOperation
  | create
  | lookup
  | bind (receiveScope : String)
  deriving DecidableEq, Repr

structure QuoteCaller where
  service : QuoteService
  request : QuoteRequest
  operation : QuoteOperation
  deriving DecidableEq

section Machine

variable [QuoteJson]

inductive QuoteAnswer
  | quote (stored : StoredXmrQuote)
  | intent (intent : XmrCreditIntent)
  deriving DecidableEq

abbrev QuoteResponse : Type :=
  Except QuoteError QuoteAnswer

/-! ## Pricing -/

def quoteDocument (service : QuoteService) (identity : String) (evidence : RateEvidence)
    (issuedAt expiresAt : Int) (quote : XmrQuote) : Document where
  version := 1
  identity := identity
  policy := service.policy
  numerator := toString evidence.rate.numerator
  denominator := toString evidence.rate.denominator
  source := evidence.rate.source
  observedAt := evidence.rate.observedAt
  fetchedAt := evidence.fetchedAt
  issuedAt := issuedAt
  expiresAt := expiresAt
  expectedAtomic := quote.terms.expectedAtomic
  evidence := evidence.rawJson
  evidenceSha256 := QuoteJson.sha256 evidence.rawJson

def priceQuote (service : QuoteService) (targetSats : Nat) (now issuedAt : Int)
    (evidence : RateEvidence) : Except QuoteError (Int × XmrQuote) := do
  ensure (evidence.rate.source = service.sourceId ∧ now ≤ evidence.fetchedAt ∧
    evidence.fetchedAt ≤ issuedAt) .sourceMismatch
  validateRate evidence.rate service.policy
  let expiresAt ← require (checkedAddI64 issuedAt service.policy.lifetimeSeconds)
    .expiryOverflow
  let quote ← liftTerms (evidence.rate.quote targetSats issuedAt expiresAt
    service.policy.maxRateAgeSeconds)
  ensure (quote.terms.expectedAtomic ≤ service.policy.maxPiconero) .amountLimit
  return (expiresAt, quote)

def issueQuote (service : QuoteService) (request : QuoteRequest) (identity : String)
    (now issuedAt : Int) (evidence : RateEvidence) : Except QuoteError StoredXmrQuote := do
  let priced ← priceQuote service request.targetSats now issuedAt evidence
  StoredXmrQuote.decode
    (documentCodec.encode (quoteDocument service identity evidence issuedAt priced.1 priced.2))
    identity

/-! ## Control flow -/

inductive QuotePc
  | begin
  | sampleReserve (identity : String)
  | reserve (identity : String) (now : Int)
  | contact (identity : String) (now : Int)
  | awaitEvidence (identity : String) (now : Int)
  | sampleIssue (identity : String) (now : Int) (evidence : RateEvidence)
  | complete (identity : String) (stored : StoredXmrQuote) (issuedAt : Int)
  | markFailed (error : QuoteError)
  | sampleRead (identity : String)
  | read (identity : String) (now : Int)
  | sampleBind (stored : StoredXmrQuote) (intent : XmrCreditIntent)
  | bind (stored : StoredXmrQuote) (intent : XmrCreditIntent) (now : Int)
  | done
  deriving DecidableEq

inductive QuoteNext
  | goto (pc : QuotePc)
  | respond (response : QuoteResponse)
  deriving DecidableEq

def QuoteNext.pc : QuoteNext → QuotePc
  | goto pc => pc
  | respond _ => .done

def QuoteNext.response : QuoteNext → Option QuoteResponse
  | goto _ => none
  | respond response => some response

def afterSlot (caller : QuoteCaller) (granted : Bool) : QuoteNext :=
  match Identity.new caller.request caller.service.context with
  | .error error => .respond (.error error)
  | .ok identity =>
      if granted then
        match caller.operation with
        | .create => .goto (.sampleReserve (identityCodec.encode identity))
        | _ => .goto (.sampleRead (identityCodec.encode identity))
      else .respond (.error .busy)

def afterReserveSample (identity : String) : Option Int → QuoteNext
  | some now => .goto (.reserve identity now)
  | none => .respond (.error .clockUnavailable)

def afterReserve (identity : String) (now : Int) (replied : Bool) :
    Except QuoteError (Option String) → QuoteNext
  | .error error => .respond (.error error)
  | .ok answer =>
      if replied then
        match answer with
        | some existing =>
            .respond ((StoredXmrQuote.decode existing identity).map .quote)
        | none => .goto (.contact identity now)
      else .respond (.error .storeUnavailable)

def afterFetch (identity : String) (now : Int) : Option RateEvidence → QuoteNext
  | some evidence => .goto (.sampleIssue identity now evidence)
  | none => .goto (.markFailed .sourceUnavailable)

def afterIssueSample (caller : QuoteCaller) (identity : String) (now : Int)
    (evidence : RateEvidence) : Option Int → QuoteNext
  | none => .goto (.markFailed .clockUnavailable)
  | some issuedAt =>
      match issueQuote caller.service caller.request identity now issuedAt evidence with
      | .ok stored => .goto (.complete identity stored issuedAt)
      | .error error => .goto (.markFailed error)

def afterComplete (stored : StoredXmrQuote) (replied : Bool) : Except QuoteError Unit → QuoteNext
  | .error error => .goto (.markFailed error)
  | .ok () =>
      if replied then .respond (.ok (.quote stored)) else .goto (.markFailed .storeUnavailable)

def afterMarkFailed (error : QuoteError) (replied : Bool) : QuoteNext :=
  .respond (.error (if replied then error else .storeUnavailable))

def afterReadSample (identity : String) : Option Int → QuoteNext
  | some now => .goto (.read identity now)
  | none => .respond (.error .clockUnavailable)

def afterLookup (operation : QuoteOperation) (stored : StoredXmrQuote) : QuoteNext :=
  match operation with
  | .bind receiveScope =>
      match stored.creditIntent receiveScope with
      | .ok intent => .goto (.sampleBind stored intent)
      | .error error => .respond (.error error)
  | _ => .respond (.ok (.quote stored))

def afterRead (operation : QuoteOperation) (identity : String) :
    Except QuoteError String → QuoteNext
  | .error error => .respond (.error error)
  | .ok documentJson =>
      match StoredXmrQuote.decode documentJson identity with
      | .error error => .respond (.error error)
      | .ok stored => afterLookup operation stored

def afterBindSample (stored : StoredXmrQuote) (intent : XmrCreditIntent) :
    Option Int → QuoteNext
  | some now => .goto (.bind stored intent now)
  | none => .respond (.error .clockUnavailable)

def afterBind (intent : XmrCreditIntent) (replied : Bool) : Except QuoteError Unit → QuoteNext
  | .error error => .respond (.error error)
  | .ok () =>
      .respond (if replied then .ok (.intent intent) else .error .storeUnavailable)

def QuotePc.storeFailure : QuotePc → Option QuoteNext
  | reserve _ _ => some (.respond (.error .storeUnavailable))
  | complete _ _ _ => some (.goto (.markFailed .storeUnavailable))
  | markFailed _ => some (.respond (.error .storeUnavailable))
  | read _ _ => some (.respond (.error .storeUnavailable))
  | bind _ _ _ => some (.respond (.error .storeUnavailable))
  | _ => none

/-! ## Statements -/

def commit {α : Type} (outcome : Except QuoteError (α × QuoteDb)) (db : QuoteDb) :
    Except QuoteError α × QuoteDb :=
  match outcome with
  | .ok (value, after) => (.ok value, after)
  | .error error => (.error error, db)

def withUnit (outcome : Except QuoteError QuoteDb) : Except QuoteError (Unit × QuoteDb) :=
  outcome.map fun db => ((), db)

inductive QuoteEvent
  | slot (granted : Bool)
  | sampled (reading : Option Int)
  | issuing (now : Int) (evidence : RateEvidence) (reading : Option Int)
  | reserved (identity : String) (now : Int) (replied : Bool)
      (result : Except QuoteError (Option String))
  | contacted
  | fetched (evidence : Option RateEvidence)
  | completed (stored : StoredXmrQuote) (now : Int) (replied : Bool)
      (result : Except QuoteError Unit)
  | markedFailed (replied : Bool)
  | read (now : Int) (result : Except QuoteError String)
  | bound (stored : StoredXmrQuote) (intent : XmrCreditIntent) (now : Int) (replied : Bool)
      (result : Except QuoteError Unit)
  | storeFailed
  | dropped
  deriving DecidableEq

/-- One statement of a call. Slots, readings and evidence are arbitrary; at any
point the database can fail, a reply be lost, or the call disappear. -/
inductive QuoteActs (caller : QuoteCaller) :
    QuotePc → QuoteDb → QuoteEvent → QuoteNext → QuoteDb → Prop
  | slot (granted : Bool) (db : QuoteDb) :
      QuoteActs caller .begin db (.slot granted) (afterSlot caller granted) db
  | sampledReserve (identity : String) (reading : Option Int) (db : QuoteDb) :
      QuoteActs caller (.sampleReserve identity) db (.sampled reading)
        (afterReserveSample identity reading) db
  | reserved {identity : String} {now : Int} {db after : QuoteDb}
      {result : Except QuoteError (Option String)} (replied : Bool)
      (ran : commit (reserveXmrQuote caller.request identity caller.service.policy now db) db =
        (result, after)) :
      QuoteActs caller (.reserve identity now) db (.reserved identity now replied result)
        (afterReserve identity now replied result) after
  | contacted (identity : String) (now : Int) (db : QuoteDb) :
      QuoteActs caller (.contact identity now) db .contacted
        (.goto (.awaitEvidence identity now)) db
  | fetched (identity : String) (now : Int) (evidence : Option RateEvidence) (db : QuoteDb) :
      QuoteActs caller (.awaitEvidence identity now) db (.fetched evidence)
        (afterFetch identity now evidence) db
  | sampledIssue (identity : String) (now : Int) (evidence : RateEvidence)
      (reading : Option Int) (db : QuoteDb) :
      QuoteActs caller (.sampleIssue identity now evidence) db (.issuing now evidence reading)
        (afterIssueSample caller identity now evidence reading) db
  | completed {identity : String} {stored : StoredXmrQuote} {issuedAt : Int}
      {db after : QuoteDb} {result : Except QuoteError Unit} (replied : Bool)
      (ran : commit (withUnit
        (completeXmrQuote caller.request.id identity stored issuedAt db)) db = (result, after)) :
      QuoteActs caller (.complete identity stored issuedAt) db
        (.completed stored issuedAt replied result) (afterComplete stored replied result) after
  | markedFailed (error : QuoteError) (replied : Bool) (db : QuoteDb) :
      QuoteActs caller (.markFailed error) db (.markedFailed replied)
        (afterMarkFailed error replied) (failXmrQuote caller.request.id db)
  | sampledRead (identity : String) (reading : Option Int) (db : QuoteDb) :
      QuoteActs caller (.sampleRead identity) db (.sampled reading)
        (afterReadSample identity reading) db
  | read (identity : String) (now : Int) (db : QuoteDb) :
      QuoteActs caller (.read identity now) db
        (.read now (readXmrQuote caller.request.id identity now db))
        (afterRead caller.operation identity
          (readXmrQuote caller.request.id identity now db)) db
  | sampledBind (stored : StoredXmrQuote) (intent : XmrCreditIntent) (reading : Option Int)
      (db : QuoteDb) :
      QuoteActs caller (.sampleBind stored intent) db (.sampled reading)
        (afterBindSample stored intent reading) db
  | bound {stored : StoredXmrQuote} {intent : XmrCreditIntent} {now : Int}
      {db after : QuoteDb} {result : Except QuoteError Unit} (replied : Bool)
      (ran : commit (withUnit (bindXmrQuote stored intent now db)) db = (result, after)) :
      QuoteActs caller (.bind stored intent now) db (.bound stored intent now replied result)
        (afterBind intent replied result) after
  | storeFailed {pc : QuotePc} {next : QuoteNext} (fails : pc.storeFailure = some next)
      (db : QuoteDb) : QuoteActs caller pc db .storeFailed next db
  | dropped {pc : QuotePc} (running : pc ≠ .done) (db : QuoteDb) :
      QuoteActs caller pc db .dropped (.goto .done) db

/-! ## The system -/

structure QuoteCall where
  caller : QuoteCaller
  pc : QuotePc
  deriving DecidableEq

structure QuoteSystem where
  db : QuoteDb
  calls : List QuoteCall

def QuoteSystem.initial : QuoteSystem where
  db := .fresh
  calls := []

inductive QuoteLabel
  | received (caller : QuoteCaller)
  | acted (index : Nat) (caller : QuoteCaller) (event : QuoteEvent)
      (response : Option QuoteResponse)
  | ledger (label : LedgerLabel)

def QuoteSystem.receive (system : QuoteSystem) (caller : QuoteCaller) : QuoteSystem :=
  { system with calls := system.calls ++ [⟨caller, .begin⟩] }

def QuoteSystem.advance (system : QuoteSystem) (index : Nat) (call : QuoteCall)
    (next : QuoteNext) (db : QuoteDb) : QuoteSystem where
  db := db
  calls := system.calls.set index { call with pc := next.pc }

inductive QuoteStep [SerdeJson] : QuoteSystem → QuoteLabel → QuoteSystem → Prop
  | receives (system : QuoteSystem) (caller : QuoteCaller) :
      QuoteStep system (.received caller) (system.receive caller)
  | acts {system : QuoteSystem} {index : Nat} {call : QuoteCall} {event : QuoteEvent}
      {next : QuoteNext} {db : QuoteDb} (running : system.calls[index]? = some call)
      (acts : QuoteActs call.caller call.pc system.db event next db) :
      QuoteStep system (.acted index call.caller event next.response)
        (system.advance index call next db)
  | ledger {system : QuoteSystem} {label : LedgerLabel} {ledger : Db}
      (step : LedgerStep system.db.ledger label ledger) :
      QuoteStep system (.ledger label) { system with db := { system.db with ledger := ledger } }

abbrev QuoteRun [SerdeJson] : QuoteSystem → List QuoteLabel → QuoteSystem → Prop :=
  Execution.Run QuoteStep

end Machine

end LightningGoats
