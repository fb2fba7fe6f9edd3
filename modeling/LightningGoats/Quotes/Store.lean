import LightningGoats.Quotes.StoredQuote

/-! # The quote tables and their transactions

Each transaction reads the durable quote clock first and refuses to run behind
it. A transaction that returns an error is rolled back, its clock included.
-/

namespace LightningGoats

open Outcome Relational Text

def reservationSeconds : Int := 30

/-! ## Rows -/

inductive QuoteStatus
  | reserved
  | ready (documentJson : String)
  | failed
  deriving DecidableEq, Repr

structure QuoteRequestRow where
  id : Uuid
  identityJson : String
  clientBucket : String
  requestedAt : Int
  reservationUntil : Int
  status : QuoteStatus
  deriving DecidableEq, Repr

abbrev QuoteRequestRow.Clash : QuoteRequestRow → QuoteRequestRow → Prop :=
  SameKey fun row => some row.id

def QuoteRequestRow.Valid (row : QuoteRequestRow) : Prop :=
  sqlLength row.clientBucket = 64 ∧ 0 ≤ row.requestedAt ∧ row.requestedAt < row.reservationUntil

instance : DecidablePred QuoteRequestRow.Valid :=
  fun _ => inferInstanceAs (Decidable (_ ∧ _))

structure RateWatermark where
  source : String
  observedAt : Int
  numerator : String
  denominator : String
  deriving DecidableEq, Repr

abbrev RateWatermark.Clash : RateWatermark → RateWatermark → Prop :=
  SameKey fun row => some row.source

def RateWatermark.Valid (row : RateWatermark) : Prop :=
  0 ≤ row.observedAt

instance : DecidablePred RateWatermark.Valid :=
  fun row => inferInstanceAs (Decidable (0 ≤ row.observedAt))

structure QuoteBinding where
  quoteId : Uuid
  valuationId : String
  receiveScope : String
  boundAt : Int
  deriving DecidableEq, Repr

abbrev QuoteBinding.Clash : QuoteBinding → QuoteBinding → Prop :=
  EitherClash (SameKey fun row => some row.quoteId) (SameKey fun row => some row.valuationId)

def QuoteBinding.Valid (row : QuoteBinding) : Prop :=
  0 ≤ row.boundAt

instance : DecidablePred QuoteBinding.Valid :=
  fun row => inferInstanceAs (Decidable (0 ≤ row.boundAt))

/-- The ledger database with its quote tables. The clock is its single row. -/
structure QuoteDb where
  ledger : Db
  xmrQuoteRequests : Table QuoteRequestRow.Clash
  xmrQuoteClock : Int
  xmrRateWatermarks : Table RateWatermark.Clash
  xmrQuoteBindings : Table QuoteBinding.Clash

def QuoteDb.fresh : QuoteDb where
  ledger := .fresh
  xmrQuoteRequests := .empty
  xmrQuoteClock := 0
  xmrRateWatermarks := .empty
  xmrQuoteBindings := .empty

/-! ## Integers -/

def checkedAddI64 (left right : Int) : Option Int :=
  if -(maxI64 + 1) ≤ left + right ∧ left + right ≤ maxI64 then some (left + right) else none

def saturatingSubI64 (left right : Int) : Int :=
  max (-(maxI64 + 1)) (min maxI64 (left - right))

theorem checkedAddI64_eq_some {left right sum : Int} :
    checkedAddI64 left right = some sum ↔
      -(maxI64 + 1) ≤ left + right ∧ left + right ≤ maxI64 ∧ sum = left + right := by
  unfold checkedAddI64
  split
  · rename_i fits
    constructor
    · intro equal
      exact ⟨fits.1, fits.2, (Option.some.inj equal).symm⟩
    · rintro ⟨_, _, rfl⟩
      rfl
  · rename_i overflows
    simp only [reduceCtorEq, false_iff]
    rintro ⟨above, below, _⟩
    exact overflows ⟨above, below⟩

theorem saturatingSubI64_eq {left right : Int} (leftNonneg : 0 ≤ left) (leftFits : left ≤ maxI64)
    (rightNonneg : 0 ≤ right) (rightFits : right ≤ maxI64) :
    saturatingSubI64 left right = left - right := by
  unfold saturatingSubI64
  omega

/-! ## Requests -/

def checkClock (now : Int) (db : QuoteDb) : Except QuoteError QuoteDb := do
  ensure (db.xmrQuoteClock ≤ now ∧ 0 ≤ now) .clockReconciliation
  return { db with xmrQuoteClock := now }

def findQuoteRequest (id : Uuid) (db : QuoteDb) : Option QuoteRequestRow :=
  db.xmrQuoteRequests.rows.find? fun row => row.id = id

def storedResult (row : QuoteRequestRow) (identity : String) (now : Int) :
    Except QuoteError String :=
  if row.identityJson ≠ identity then .error .differentInputs
  else if now < row.requestedAt then .error .clockRegressed
  else
    match row.status with
    | .ready documentJson => .ok documentJson
    | .reserved =>
        if now < row.reservationUntil then .error .inProgress else .error .failedOrExpired
    | .failed => .error .failedOrExpired

def QuoteDb.recent (since : Int) (db : QuoteDb) : List QuoteRequestRow :=
  db.xmrQuoteRequests.rows.filter fun row => since < row.requestedAt

def QuoteDb.recentOf (clientBucket : String) (since : Int) (db : QuoteDb) :
    List QuoteRequestRow :=
  db.xmrQuoteRequests.rows.filter fun row =>
    row.clientBucket = clientBucket ∧ since < row.requestedAt

def QuoteDb.pending (now : Int) (db : QuoteDb) : List QuoteRequestRow :=
  db.xmrQuoteRequests.rows.filter fun row => row.status = .reserved ∧ now < row.reservationUntil

def QuoteDb.HasCapacity (policy : QuotePolicy) (clientBucket : String) (now since : Int)
    (db : QuoteDb) : Prop :=
  db.xmrQuoteRequests.rows.length < policy.maxRetainedRequests ∧
    (db.recent since).length < policy.maxRequestsPerWindow ∧
    (db.recentOf clientBucket since).length < policy.maxRequestsPerClientWindow ∧
    (db.pending now).length < policy.maxPendingRequests

instance (policy : QuotePolicy) (clientBucket : String) (now since : Int) (db : QuoteDb) :
    Decidable (db.HasCapacity policy clientBucket now since) :=
  inferInstanceAs (Decidable (_ ∧ _))

def reserveXmrQuote (request : QuoteRequest) (identity : String) (policy : QuotePolicy)
    (now : Int) (db : QuoteDb) : Except QuoteError (Option String × QuoteDb) := do
  let clocked ← checkClock now db
  match findQuoteRequest request.id clocked with
  | some row => do
      let existing ← storedResult row identity now
      return (some existing, clocked)
  | none => do
      ensure (policy.minTargetSats ≤ request.targetSats ∧
        request.targetSats ≤ policy.maxTargetSats) .targetBounds
      let since := saturatingSubI64 now policy.admissionWindowSeconds
      ensure (clocked.HasCapacity policy request.clientBucket now since) .capacity
      let reservationUntil ← require (checkedAddI64 now reservationSeconds) .reservationOverflow
      let inserted ← liftLedger (insertRow "xmr_quote_requests" QuoteRequestRow.Valid
        clocked.xmrQuoteRequests
        ⟨request.id, identity, request.clientBucket, now, reservationUntil, .reserved⟩)
      return (none, { clocked with xmrQuoteRequests := inserted.1 })

/-- `SET status = … WHERE id = ? AND status = 'reserved'` -/
def QuoteRequestRow.settle (id : Uuid) (status : QuoteStatus) (row : QuoteRequestRow) :
    QuoteRequestRow :=
  if row.id = id ∧ row.status = .reserved then { row with status := status } else row

@[simp] theorem QuoteRequestRow.settle_id (id : Uuid) (status : QuoteStatus)
    (row : QuoteRequestRow) : (row.settle id status).id = row.id := by
  unfold settle
  split <;> rfl

@[simp] theorem QuoteRequestRow.settle_identityJson (id : Uuid) (status : QuoteStatus)
    (row : QuoteRequestRow) : (row.settle id status).identityJson = row.identityJson := by
  unfold settle
  split <;> rfl

@[simp] theorem QuoteRequestRow.settle_clientBucket (id : Uuid) (status : QuoteStatus)
    (row : QuoteRequestRow) : (row.settle id status).clientBucket = row.clientBucket := by
  unfold settle
  split <;> rfl

@[simp] theorem QuoteRequestRow.settle_requestedAt (id : Uuid) (status : QuoteStatus)
    (row : QuoteRequestRow) : (row.settle id status).requestedAt = row.requestedAt := by
  unfold settle
  split <;> rfl

@[simp] theorem QuoteRequestRow.settle_reservationUntil (id : Uuid) (status : QuoteStatus)
    (row : QuoteRequestRow) :
    (row.settle id status).reservationUntil = row.reservationUntil := by
  unfold settle
  split <;> rfl

def settleQuoteRequest (id : Uuid) (status : QuoteStatus) (db : QuoteDb) : QuoteDb :=
  { db with
    xmrQuoteRequests := db.xmrQuoteRequests.update (QuoteRequestRow.settle id status)
      fun _ _ clashes => clashes.of_preserved (by simp) (by simp) }

@[simp] theorem rows_settleQuoteRequest (id : Uuid) (status : QuoteStatus) (db : QuoteDb) :
    (settleQuoteRequest id status db).xmrQuoteRequests.rows =
      db.xmrQuoteRequests.rows.map (QuoteRequestRow.settle id status) := by
  simp [settleQuoteRequest]

/-! ## Rate watermarks -/

def RateWatermark.ofRate (rate : XmrBtcRate) : RateWatermark where
  source := rate.source
  observedAt := rate.observedAt
  numerator := toString rate.numerator
  denominator := toString rate.denominator

/-- The newest observation of a source is kept. An older one is refused, and so is
another ratio for the same time; the 128-bit products cannot overflow. -/
def RateWatermark.Contradicts (observedAt : Int) (numerator denominator : Nat)
    (rate : XmrBtcRate) : Prop :=
  rate.observedAt < observedAt ∨
    (observedAt = rate.observedAt ∧
      rate.numerator * denominator ≠ numerator * rate.denominator)

instance (observedAt : Int) (numerator denominator : Nat) (rate : XmrBtcRate) :
    Decidable (RateWatermark.Contradicts observedAt numerator denominator rate) :=
  inferInstanceAs (Decidable (_ ∨ _))

def RateWatermark.advance (rate : XmrBtcRate) (row : RateWatermark) : RateWatermark :=
  if row.source = rate.source then .ofRate rate else row

@[simp] theorem RateWatermark.advance_source (rate : XmrBtcRate) (row : RateWatermark) :
    (row.advance rate).source = row.source := by
  unfold advance
  split
  · rename_i same
    exact same.symm
  · rfl

def markRate (rate : XmrBtcRate) (db : QuoteDb) : Except QuoteError QuoteDb :=
  match db.xmrRateWatermarks.rows.find? fun row => row.source = rate.source with
  | some prior => do
      let numerator ← require (parseU64 prior.numerator) .malformed
      let denominator ← require (parseU64 prior.denominator) .malformed
      ensure (¬ RateWatermark.Contradicts prior.observedAt numerator.toNat denominator.toNat rate)
        .rateRegressed
      if prior.observedAt < rate.observedAt then
        return { db with
          xmrRateWatermarks := db.xmrRateWatermarks.update (RateWatermark.advance rate)
            fun _ _ clashes => clashes.of_preserved (by simp) (by simp) }
      else return db
  | none => do
      let inserted ← liftLedger (insertRow "xmr_rate_watermarks" RateWatermark.Valid
        db.xmrRateWatermarks (.ofRate rate))
      return { db with xmrRateWatermarks := inserted.1 }

/-! ## Completion -/

section Transactions

variable [QuoteJson]

def completeXmrQuote (id : Uuid) (identity : String) (quote : StoredXmrQuote) (now : Int)
    (db : QuoteDb) : Except QuoteError QuoteDb := do
  let clocked ← checkClock now db
  let row ← require (findQuoteRequest id clocked) (.ledger (.sqlite .rowNotFound))
  ensure (row.status = .reserved ∧ row.identityJson = identity ∧ now < row.reservationUntil ∧
    quote.id = id ∧ quote.quote.issuedAt = now) .reservationInvalid
  let marked ← markRate quote.quote.rate clocked
  return settleQuoteRequest id (.ready quote.documentJson) marked

def failXmrQuote (id : Uuid) (db : QuoteDb) : QuoteDb :=
  settleQuoteRequest id .failed db

def readXmrQuote (id : Uuid) (identity : String) (now : Int) (db : QuoteDb) :
    Except QuoteError String := do
  let row ← require (findQuoteRequest id db) .unknownRequest
  storedResult row identity now

/-! ## Binding -/

/-- `SELECT document_json … WHERE id = ? AND status = 'ready'` -/
def readyDocument (id : Uuid) (db : QuoteDb) : Option String :=
  (findQuoteRequest id db).bind fun row =>
    match row.status with
    | .ready documentJson => some documentJson
    | _ => none

def findBinding (quoteId : Uuid) (db : QuoteDb) : Option QuoteBinding :=
  db.xmrQuoteBindings.rows.find? fun row => row.quoteId = quoteId

def registerIntent (intent : XmrCreditIntent) (db : QuoteDb) : Except QuoteError QuoteDb := do
  let ledger ← liftLedger (registerXmrIntentInTransaction intent db.ledger)
  return { db with ledger := ledger }

def insertBinding (quote : StoredXmrQuote) (intent : XmrCreditIntent) (now : Int)
    (db : QuoteDb) : Except QuoteError QuoteDb := do
  ensure (quote.quote.issuedAt ≤ now ∧ now < quote.quote.expiresAt) .expiredOrFuture
  let registered ← registerIntent intent db
  let inserted ← liftLedger (insertRow "xmr_quote_bindings" QuoteBinding.Valid
    registered.xmrQuoteBindings ⟨quote.id, xmrId intent.id, intent.receiveScope, now⟩)
  return { registered with xmrQuoteBindings := inserted.1 }

def keepBinding (row : QuoteBinding) (intent : XmrCreditIntent) (db : QuoteDb) :
    Except QuoteError QuoteDb := do
  ensure (row.receiveScope = intent.receiveScope ∧ row.valuationId = xmrId intent.id)
    .differentBinding
  return db

def storeBinding (quote : StoredXmrQuote) (intent : XmrCreditIntent) (now : Int)
    (db : QuoteDb) : Except QuoteError QuoteDb :=
  match findBinding quote.id db with
  | some row => keepBinding row intent db
  | none => insertBinding quote intent now db

def bindXmrQuote (quote : StoredXmrQuote) (intent : XmrCreditIntent) (now : Int)
    (db : QuoteDb) : Except QuoteError QuoteDb := do
  let clocked ← checkClock now db
  let saved ← require (readyDocument quote.id clocked) (.ledger (.sqlite .rowNotFound))
  ensure (saved = quote.documentJson) .quoteChanged
  let bound ← storeBinding quote intent now clocked
  registerIntent intent bound

end Transactions

end LightningGoats
