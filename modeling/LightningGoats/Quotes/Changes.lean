import LightningGoats.Ledger.Changes
import LightningGoats.Quotes.Store

/-! # What the quote transactions can do

Every committed transaction of the quote store is one of a few changes, each of
which records what the transaction had checked.
-/

namespace LightningGoats

open Outcome Relational Text

/-! ## Specifications of the statements -/

theorem checkClock_eq_ok {now : Int} {before after : QuoteDb} :
    checkClock now before = .ok after ↔
      before.xmrQuoteClock ≤ now ∧ 0 ≤ now ∧ after = { before with xmrQuoteClock := now } := by
  simp only [checkClock, bind_eq_ok, ensure_eq_ok, pure_eq_ok]
  constructor
  · rintro ⟨_, ⟨notBehind, nonneg⟩, rfl⟩
    exact ⟨notBehind, nonneg, rfl⟩
  · rintro ⟨notBehind, nonneg, rfl⟩
    exact ⟨.unit, ⟨notBehind, nonneg⟩, rfl⟩

theorem findQuoteRequest_eq_some {id : Uuid} {db : QuoteDb} {row : QuoteRequestRow} :
    findQuoteRequest id db = some row ↔ row ∈ db.xmrQuoteRequests.rows ∧ row.id = id :=
  Table.find?_key_eq_some

theorem findQuoteRequest_eq_none {id : Uuid} {db : QuoteDb} :
    findQuoteRequest id db = none ↔ ∀ row ∈ db.xmrQuoteRequests.rows, row.id ≠ id := by
  simp [findQuoteRequest]

theorem storedResult_eq_ok {row : QuoteRequestRow} {identity documentJson : String} {now : Int} :
    storedResult row identity now = .ok documentJson ↔
      row.identityJson = identity ∧ row.requestedAt ≤ now ∧ row.status = .ready documentJson := by
  unfold storedResult
  split
  · rename_i different
    simp [different]
  · rename_i same
    split
    · rename_i early
      simp [Int.not_le.mpr early]
    · rename_i notEarly
      have same : row.identityJson = identity := by simpa using same
      split
      · rename_i isReady
        simp [same, isReady, Int.not_lt.mp notEarly]
      · rename_i isReserved
        simp only [isReserved, reduceCtorEq, and_false, iff_false]
        split <;> simp
      · rename_i isFailed
        simp [isFailed]

theorem storedResult_of_different {row : QuoteRequestRow} {identity : String} {now : Int}
    (different : row.identityJson ≠ identity) :
    storedResult row identity now = .error .differentInputs :=
  if_pos different

theorem readyDocument_eq_some {id : Uuid} {db : QuoteDb} {documentJson : String} :
    readyDocument id db = some documentJson ↔
      ∃ row ∈ db.xmrQuoteRequests.rows, row.id = id ∧ row.status = .ready documentJson := by
  rw [readyDocument, Option.bind_eq_some_iff]
  constructor
  · rintro ⟨row, found, isReady⟩
    rcases findQuoteRequest_eq_some.mp found with ⟨member, sameId⟩
    split at isReady
    · rename_i isStatus
      cases isReady
      exact ⟨row, member, sameId, isStatus⟩
    · cases isReady
  · rintro ⟨row, member, sameId, isReady⟩
    exact ⟨row, findQuoteRequest_eq_some.mpr ⟨member, sameId⟩, by rw [isReady]⟩

theorem Registers.stored {intent : XmrCreditIntent} {before after : Db}
    (registers : Registers intent before after) :
    intent.stored ∈ after.creditValuations.rows := by
  cases registers with
  | intro _ valuationFresh => exact Table.mem_rows_insert_new valuationFresh

theorem registerIntent_cases {intent : XmrCreditIntent} {before after : QuoteDb}
    (ran : registerIntent intent before = .ok after) :
    (after = before ∧ intent.stored ∈ before.ledger.creditValuations.rows) ∨
      ∃ ledger, Registers intent before.ledger ledger ∧ after = { before with ledger := ledger } := by
  simp only [registerIntent, bind_eq_ok, liftLedger_eq_ok, pure_eq_ok] at ran
  rcases ran with ⟨ledger, registered, rfl⟩
  have committed : registerXmrCreditIntent intent before.ledger = .ok ((), ledger) := by
    simp only [registerXmrCreditIntent, bind_eq_ok, pure_eq_ok]
    exact ⟨ledger, registered, rfl⟩
  rcases registerXmrCreditIntent_cases committed with ⟨rfl, valued⟩ | registers
  · exact .inl ⟨rfl, valued⟩
  · exact .inr ⟨ledger, registers, rfl⟩

/-- An intent that was accepted once is accepted again wherever its valuation is
stored, and changes nothing there. -/
theorem registerIntent_again {intent : XmrCreditIntent} {before after db : QuoteDb}
    (accepted : registerIntent intent before = .ok after)
    (stored : intent.stored ∈ db.ledger.creditValuations.rows) :
    registerIntent intent db = .ok db := by
  simp only [registerIntent, registerXmrIntentInTransaction, bind_eq_ok, liftLedger_eq_ok,
    ensure_eq_ok, toI64_eq_ok, pure_eq_ok] at accepted ⊢
  rcases accepted with ⟨_, ⟨_, notNil, _, source, _, account, _, scope, _, user, _, pool, _,
    limited, _, ⟨expectedFits, rfl⟩, _, ⟨targetFits, rfl⟩, _, ⟨limitFits, rfl⟩, _⟩, _⟩
  refine ⟨db.ledger, ⟨.unit, notNil, _, source, _, account, _, scope, _, user, .unit, pool,
    .unit, limited, _, ⟨expectedFits, rfl⟩, _, ⟨targetFits, rfl⟩, _, ⟨limitFits, rfl⟩, ?_⟩, rfl⟩
  have found : (db.ledger.creditValuations.rows.find? fun row =>
      row.id = intent.stored.id) = some intent.stored := by
    refine db.ledger.creditValuations.find?_eq_some_of_clash _ stored (by simp)
      fun left right isLeft isRight => .inl (sameKey_iff.mpr ⟨intent.stored.id, ?_, ?_⟩)
    · exact congrArg some (decide_eq_true_eq.mp isLeft)
    · exact congrArg some (decide_eq_true_eq.mp isRight)
  rw [XmrCreditIntent.stored] at found
  rw [found]
  exact bind_eq_ok.mpr ⟨.unit, ensure_of rfl, rfl⟩

theorem registerIntent_stored {intent : XmrCreditIntent} {before after : QuoteDb}
    (ran : registerIntent intent before = .ok after)
    (stored : intent.stored ∈ before.ledger.creditValuations.rows) : after = before := by
  rcases registerIntent_cases ran with ⟨unchanged, _⟩ | ⟨_, registers, _⟩
  · exact unchanged
  · cases registers with
    | intro _ valuationFresh =>
      exact absurd (.inl (sameKey_iff.mpr ⟨_, rfl, rfl⟩)) (valuationFresh _ stored)

inductive MarksRate (rate : XmrBtcRate) : QuoteDb → QuoteDb → Prop
  | agrees {db : QuoteDb} {prior : RateWatermark} {numerator denominator : UInt64}
      (member : prior ∈ db.xmrRateWatermarks.rows) (sameSource : prior.source = rate.source)
      (isNumerator : parseU64 prior.numerator = some numerator)
      (isDenominator : parseU64 prior.denominator = some denominator)
      (sameTime : prior.observedAt = rate.observedAt)
      (sameRatio : rate.numerator * denominator.toNat = numerator.toNat * rate.denominator) :
      MarksRate rate db db
  | advances {db : QuoteDb} {prior : RateWatermark}
      (member : prior ∈ db.xmrRateWatermarks.rows) (sameSource : prior.source = rate.source)
      (newer : prior.observedAt < rate.observedAt) :
      MarksRate rate db { db with
        xmrRateWatermarks := db.xmrRateWatermarks.update (RateWatermark.advance rate)
          fun _ _ clashes => clashes.of_preserved (by simp) (by simp) }
  | begins {db : QuoteDb} (absent : ∀ row ∈ db.xmrRateWatermarks.rows, row.source ≠ rate.source)
      (fresh : db.xmrRateWatermarks.Fresh (.ofRate rate)) :
      MarksRate rate db { db with
        xmrRateWatermarks := db.xmrRateWatermarks.insert (.ofRate rate) fresh }

theorem markRate_cases {rate : XmrBtcRate} {before after : QuoteDb}
    (ran : markRate rate before = .ok after) : MarksRate rate before after := by
  unfold markRate at ran
  split at ran
  · rename_i prior found
    rcases Table.find?_key_eq_some.mp found with ⟨member, sameSource⟩
    simp only [bind_eq_ok, require_eq_ok, ensure_eq_ok] at ran
    rcases ran with ⟨numerator, isNumerator, denominator, isDenominator, _, agrees, ran⟩
    split at ran
    · rename_i newer
      cases ran
      exact .advances member sameSource newer
    · rename_i notNewer
      cases ran
      simp only [RateWatermark.Contradicts, not_or, not_and, not_not, Int.not_lt] at agrees
      have sameTime : prior.observedAt = rate.observedAt :=
        Int.le_antisymm agrees.1 (Int.not_lt.mp notNewer)
      exact .agrees member sameSource isNumerator isDenominator sameTime (agrees.2 sameTime)
  · rename_i absent
    simp only [bind_eq_ok, liftLedger_eq_ok, Prod.exists, insertRow_eq_ok, pure_eq_ok] at ran
    rcases ran with ⟨_, _, ⟨_, _, fresh, rfl⟩, rfl⟩
    exact .begins (by simpa using absent) fresh

theorem MarksRate.eq_with {rate : XmrBtcRate} {before after : QuoteDb}
    (marks : MarksRate rate before after) :
    after = { before with xmrRateWatermarks := after.xmrRateWatermarks } := by
  cases marks <;> rfl

/-! ## Changes -/

/-- The committed transactions of the quote store, and those of the rest of the
ledger. -/
inductive QuoteChange [QuoteJson]
  | none
  | replays (id : Uuid) (now : Int)
  | reserves (request : QuoteRequest) (identity : String) (policy : QuotePolicy) (now : Int)
  | completes (quote : StoredXmrQuote) (now : Int)
  | fails (id : Uuid)
  | binds (quote : StoredXmrQuote) (intent : XmrCreditIntent) (now : Int)
  | ledger (label : LedgerLabel)

structure Ticks (now : Int) (db : QuoteDb) : Prop where
  notBehind : db.xmrQuoteClock ≤ now
  nonneg : 0 ≤ now

def QuoteDb.tick (now : Int) (db : QuoteDb) : QuoteDb :=
  { db with xmrQuoteClock := now }

@[simp] theorem tick_ledger (now : Int) (db : QuoteDb) : (db.tick now).ledger = db.ledger := rfl

@[simp] theorem tick_xmrQuoteRequests (now : Int) (db : QuoteDb) :
    (db.tick now).xmrQuoteRequests = db.xmrQuoteRequests := rfl

@[simp] theorem tick_xmrQuoteClock (now : Int) (db : QuoteDb) :
    (db.tick now).xmrQuoteClock = now := rfl

@[simp] theorem tick_xmrRateWatermarks (now : Int) (db : QuoteDb) :
    (db.tick now).xmrRateWatermarks = db.xmrRateWatermarks := rfl

@[simp] theorem tick_xmrQuoteBindings (now : Int) (db : QuoteDb) :
    (db.tick now).xmrQuoteBindings = db.xmrQuoteBindings := rfl

def QuoteRequest.Identifies (request : QuoteRequest) (context : QuoteContext)
    (identity : String) : Prop :=
  ∃ value, Identity.new request context = .ok value ∧ identityCodec.encode value = identity

def reservation (request : QuoteRequest) (identity : String) (now : Int) : QuoteRequestRow :=
  ⟨request.id, identity, request.clientBucket, now, now + reservationSeconds, .reserved⟩

/-- The valuation of a new binding, which may have been registered before. -/
inductive ValuesIntent (intent : XmrCreditIntent) : Db → Db → Prop
  | known {db : Db} (stored : intent.stored ∈ db.creditValuations.rows) : ValuesIntent intent db db
  | registers {before after : Db} (registers : Registers intent before after) :
      ValuesIntent intent before after

inductive QuoteChanges [QuoteJson] [SerdeJson] : QuoteDb → QuoteChange → QuoteDb → Prop
  | none (db : QuoteDb) : QuoteChanges db .none db
  | replays {db : QuoteDb} {row : QuoteRequestRow} {documentJson : String} {now : Int}
      (ticks : Ticks now db) (member : row ∈ db.xmrQuoteRequests.rows)
      (isReady : row.status = .ready documentJson) :
      QuoteChanges db (.replays row.id now) (db.tick now)
  | reserves {db : QuoteDb} {request : QuoteRequest} {identity : String} {policy : QuotePolicy}
      {now : Int} (ticks : Ticks now db)
      (identified : ∃ context, request.Identifies context identity)
      (absent : ∀ row ∈ db.xmrQuoteRequests.rows, row.id ≠ request.id)
      (inBounds : policy.minTargetSats ≤ request.targetSats ∧
        request.targetSats ≤ policy.maxTargetSats)
      (capacity : db.HasCapacity policy request.clientBucket now
        (saturatingSubI64 now policy.admissionWindowSeconds))
      (fits : now + reservationSeconds ≤ maxI64)
      (fresh : db.xmrQuoteRequests.Fresh (reservation request identity now)) :
      QuoteChanges db (.reserves request identity policy now) { db with
        xmrQuoteClock := now
        xmrQuoteRequests := db.xmrQuoteRequests.insert (reservation request identity now) fresh }
  | completes {db marked : QuoteDb} {row : QuoteRequestRow} {quote : StoredXmrQuote} {now : Int}
      (ticks : Ticks now db) (member : row ∈ db.xmrQuoteRequests.rows)
      (sameId : row.id = quote.id) (isReserved : row.status = .reserved)
      (sameIdentity : row.identityJson = quote.identityJson)
      (inTime : now < row.reservationUntil) (issued : quote.quote.issuedAt = now)
      (marks : MarksRate quote.quote.rate (db.tick now) marked) :
      QuoteChanges db (.completes quote now)
        (settleQuoteRequest quote.id (.ready quote.documentJson) marked)
  | fails (id : Uuid) (db : QuoteDb) :
      QuoteChanges db (.fails id) (settleQuoteRequest id .failed db)
  | binds {db : QuoteDb} {row : QuoteRequestRow} {quote : StoredXmrQuote}
      {intent : XmrCreditIntent} {now : Int} {ledger : Db} (ticks : Ticks now db)
      (member : row ∈ db.xmrQuoteRequests.rows) (sameId : row.id = quote.id)
      (isReady : row.status = .ready quote.documentJson)
      (issued : quote.quote.issuedAt ≤ now) (unexpired : now < quote.quote.expiresAt)
      (isIntent : quote.creditIntent intent.receiveScope = .ok intent)
      (values : ValuesIntent intent db.ledger ledger)
      (fresh : db.xmrQuoteBindings.Fresh
        ⟨quote.id, xmrId intent.id, intent.receiveScope, now⟩) :
      QuoteChanges db (.binds quote intent now) { db with
        ledger := ledger
        xmrQuoteClock := now
        xmrQuoteBindings := db.xmrQuoteBindings.insert _ fresh }
  | rebinds {db : QuoteDb} {binding : QuoteBinding} {quote : StoredXmrQuote}
      {intent : XmrCreditIntent} {now : Int} {ledger : Db} (ticks : Ticks now db)
      (bound : binding ∈ db.xmrQuoteBindings.rows) (sameId : binding.quoteId = quote.id)
      (sameScope : binding.receiveScope = intent.receiveScope)
      (sameValuation : binding.valuationId = xmrId intent.id)
      (isIntent : quote.creditIntent intent.receiveScope = .ok intent)
      (values : ValuesIntent intent db.ledger ledger) :
      QuoteChanges db (.binds quote intent now) { db.tick now with ledger := ledger }
  | ledger {db : QuoteDb} {label : LedgerLabel} {ledger : Db}
      (step : LedgerStep db.ledger label ledger) :
      QuoteChanges db (.ledger label) { db with ledger := ledger }

/-! ## The transactions are changes -/

section Transactions

variable [QuoteJson] [SerdeJson] {before after : QuoteDb} {now : Int}

theorem reserveXmrQuote_cases {request : QuoteRequest} {identity : String}
    {policy : QuotePolicy} {answer : Option String}
    (ran : reserveXmrQuote request identity policy now before = .ok (answer, after))
    (identified : ∃ context, request.Identifies context identity) :
    (∃ row documentJson, findQuoteRequest request.id before = some row ∧
      row.identityJson = identity ∧ row.status = .ready documentJson ∧
      answer = some documentJson ∧ QuoteChanges before (.replays request.id now) after) ∨
    (answer = none ∧ QuoteChanges before (.reserves request identity policy now) after) := by
  simp only [reserveXmrQuote, bind_eq_ok, checkClock_eq_ok] at ran
  rcases ran with ⟨clocked, ⟨notBehind, nonneg, rfl⟩, ran⟩
  split at ran
  · rename_i row found
    simp only [bind_eq_ok, pure_eq_ok, Prod.mk.injEq, storedResult_eq_ok] at ran
    rcases ran with ⟨documentJson, ⟨sameIdentity, _, isReady⟩, rfl, rfl⟩
    have found : findQuoteRequest request.id before = some row := found
    rcases findQuoteRequest_eq_some.mp found with ⟨member, sameId⟩
    refine .inl ⟨row, documentJson, found, sameIdentity, isReady, rfl, ?_⟩
    rw [← sameId]
    exact .replays ⟨notBehind, nonneg⟩ member isReady
  · rename_i absent
    have absent : findQuoteRequest request.id before = none := absent
    simp only [bind_eq_ok, pure_eq_ok, ensure_eq_ok, require_eq_ok, liftLedger_eq_ok,
      Prod.exists, Prod.mk.injEq, insertRow_eq_ok, checkedAddI64_eq_some] at ran
    rcases ran with ⟨_, inBounds, _, capacity, _, ⟨_, fits, rfl⟩, _, _, ⟨_, _, fresh, rfl⟩, rfl,
      rfl⟩
    exact .inr ⟨rfl, .reserves ⟨notBehind, nonneg⟩ identified (findQuoteRequest_eq_none.mp absent)
      inBounds capacity fits fresh⟩

theorem completeXmrQuote_changes {id : Uuid} {identity : String} {quote : StoredXmrQuote}
    (ran : completeXmrQuote id identity quote now before = .ok after)
    (sameIdentity : quote.identityJson = identity) :
    quote.id = id ∧ QuoteChanges before (.completes quote now) after := by
  simp only [completeXmrQuote, bind_eq_ok, checkClock_eq_ok, require_eq_ok, ensure_eq_ok,
    pure_eq_ok] at ran
  rcases ran with ⟨_, ⟨notBehind, nonneg, rfl⟩, row, found, _,
    ⟨isReserved, isIdentity, inTime, rfl, issued⟩, marked, marks, rfl⟩
  have found : findQuoteRequest quote.id before = some row := found
  rcases findQuoteRequest_eq_some.mp found with ⟨member, sameId⟩
  exact ⟨rfl, .completes ⟨notBehind, nonneg⟩ member sameId isReserved
    (isIdentity.trans sameIdentity.symm) inTime issued (markRate_cases marks)⟩

theorem bindXmrQuote_changes {quote : StoredXmrQuote} {intent : XmrCreditIntent}
    (ran : bindXmrQuote quote intent now before = .ok after)
    (isIntent : quote.creditIntent intent.receiveScope = .ok intent) :
    QuoteChanges before (.binds quote intent now) after := by
  simp only [bindXmrQuote, bind_eq_ok, checkClock_eq_ok, require_eq_ok, ensure_eq_ok] at ran
  rcases ran with ⟨_, ⟨notBehind, nonneg, rfl⟩, saved, isSaved, _, rfl, bound, isBound, again⟩
  unfold storeBinding at isBound
  split at isBound
  · rename_i binding found
    simp only [keepBinding, bind_eq_ok, ensure_eq_ok, pure_eq_ok] at isBound
    rcases isBound with ⟨_, ⟨sameScope, sameValuation⟩, rfl⟩
    have member : binding ∈ before.xmrQuoteBindings.rows := List.mem_of_find?_eq_some found
    have sameId : binding.quoteId = quote.id := by simpa using List.find?_some found
    rcases registerIntent_cases again with ⟨rfl, stored⟩ | ⟨ledger, registers, rfl⟩
    · exact .rebinds ⟨notBehind, nonneg⟩ member sameId sameScope sameValuation isIntent
        (.known stored)
    · exact .rebinds ⟨notBehind, nonneg⟩ member sameId sameScope sameValuation isIntent
        (.registers registers)
  · simp only [insertBinding, bind_eq_ok, ensure_eq_ok, liftLedger_eq_ok, Prod.exists,
      insertRow_eq_ok, pure_eq_ok] at isBound
    rcases isBound with ⟨_, ⟨issued, unexpired⟩, registered, isRegistered, _, _,
      ⟨_, _, fresh, rfl⟩, rfl⟩
    rcases readyDocument_eq_some.mp isSaved with ⟨row, member, sameId, isReady⟩
    rcases registerIntent_cases isRegistered with ⟨rfl, stored⟩ | ⟨ledger, registers, rfl⟩
    · rw [registerIntent_stored again stored]
      exact .binds ⟨notBehind, nonneg⟩ member sameId isReady issued unexpired isIntent
        (.known stored) fresh
    · rw [registerIntent_stored again (registers.stored)]
      exact .binds ⟨notBehind, nonneg⟩ member sameId isReady issued unexpired isIntent
        (.registers registers) fresh

end Transactions

end LightningGoats
