import LightningGoats.Foundation.Execution
import LightningGoats.Ledger.Feed
import LightningGoats.Ledger.Payments
import LightningGoats.Ledger.Inbox

/-! # The ledger store as a transition system

One call of the store is one serializable transaction. A call that returns an
error has been rolled back, whatever it had written before it failed.
-/

namespace LightningGoats

open Outcome

/-- A call of the store. `beginFeedAttempt` carries the identifier it draws. -/
inductive LedgerCall
  | recordPayment (payment : SettledPayment)
  | registerXmrCreditIntent (intent : XmrCreditIntent)
  | recordXmrReceipt (intentId : Uuid) (observation : XmrReceiptObservation)
  | holdXmrCreditIntent (intentId : Uuid)
  | xmrCreditAllocation (intentId : Uuid)
  | markInterruptedFeedIntentsUnknown
  | beginFeedAttempt (thresholdSats : Nat) (drawn : Uuid)
  | confirmFeedAttempt (id : Uuid)
  | markFeedUnknown (id : Uuid) (error : String)
  | reconcileUnknownAsFed (id : Uuid)
  | reconcileUnknownAsNotFed (id : Uuid)
  | resolveFeedNotDispatched (id : Uuid) (retryAfterSeconds : Nat)
  | unresolvedFeedAttempt
  | feedCreditSats
  | appendEvent (event : InformationalEvent)
  | eventsAfter (afterSeq limit : Nat)
  | latestEventSeq
  | overlaySnapshotMessage (thresholdSats : Nat)
  | recordStrikeReceiveRequest (request : StoredStrikeReceiveRequest)
  | strikeReceiveRequest (receiveRequestId : Uuid)
  | enqueueStrikeEvent (event : StrikeCompletedReceiveEvent)
  | enqueueStrikeWork (key : String) (event : StrikeCompletedReceiveEvent)
  | dueStrikeWork
  | finishStrikeWork (key : String)
  | retryStrikeWork (key : String) (attempts : Nat)
  | dueStrikeScan
  | recordStrikeScan (id : Uuid) (offset attempts : Nat) (delay : Int)

inductive LedgerResponse
  | done
  | settlement (outcome : SettlementOutcome)
  | receipt (outcome : CreditReceiptOutcome)
  | allocation (allocation : CreditAllocation)
  | attempt (id : Option Uuid)
  | stored (attempt : Option StoredFeedAttempt)
  | count (value : Nat)
  | events (events : List DurableEvent)
  | snapshot (seq : Nat) (message : List (String × JsonValue))
  | request (request : Option StoredStrikeReceiveRequest)
  | work (work : Option StrikeInboxWork)
  | scan (scan : Option DueScan)
  deriving DecidableEq, Repr

def transact {α : Type} (body : Db → Except LedgerError (α × Db))
    (respond : α → LedgerResponse) (db : Db) : Except LedgerError (LedgerResponse × Db) := do
  let outcome ← body db
  return (respond outcome.1, outcome.2)

def readOnly {α : Type} (body : Db → Except LedgerError α) (respond : α → LedgerResponse)
    (db : Db) : Except LedgerError (LedgerResponse × Db) := do
  let value ← body db
  return (respond value, db)

theorem transact_eq_ok {α : Type} {body : Db → Except LedgerError (α × Db)}
    {respond : α → LedgerResponse} {before after : Db} {response : LedgerResponse} :
    transact body respond before = .ok (response, after) ↔
      ∃ value, body before = .ok (value, after) ∧ response = respond value := by
  simp only [transact, bind_eq_ok, pure_eq_ok, Prod.mk.injEq]
  constructor
  · rintro ⟨⟨value, committed⟩, ran, rfl, rfl⟩
    exact ⟨value, ran, rfl⟩
  · rintro ⟨value, ran, rfl⟩
    exact ⟨(value, after), ran, rfl, rfl⟩

theorem transact_error {α : Type} {body : Db → Except LedgerError (α × Db)}
    {respond : α → LedgerResponse} {db : Db} {error : LedgerError} :
    transact body respond db = .error error ↔ body db = .error error := by
  unfold transact
  cases body db with
  | error reason => simp [bind, Except.bind]
  | ok outcome => simp [bind, Except.bind, pure, Except.pure]

theorem readOnly_eq_ok {α : Type} {body : Db → Except LedgerError α}
    {respond : α → LedgerResponse} {before after : Db} {response : LedgerResponse} :
    readOnly body respond before = .ok (response, after) ↔
      ∃ value, body before = .ok value ∧ response = respond value ∧ after = before := by
  simp only [readOnly, bind_eq_ok, pure_eq_ok, Prod.mk.injEq]
  constructor
  · rintro ⟨value, ran, rfl, rfl⟩
    exact ⟨value, ran, rfl, rfl⟩
  · rintro ⟨value, ran, rfl, rfl⟩
    exact ⟨value, ran, rfl, rfl⟩

/-- What a call commits, if it succeeds at time `now`. -/
def LedgerCall.body [SerdeJson] (now : Int) :
    LedgerCall → Db → Except LedgerError (LedgerResponse × Db)
  | recordPayment payment =>
      transact (LightningGoats.recordPayment payment) .settlement
  | registerXmrCreditIntent intent =>
      transact (LightningGoats.registerXmrCreditIntent intent) fun _ => .done
  | recordXmrReceipt intentId observation =>
      transact (LightningGoats.recordXmrReceipt intentId observation) .receipt
  | holdXmrCreditIntent intentId =>
      transact (LightningGoats.holdXmrCreditIntent intentId) fun _ => .done
  | xmrCreditAllocation intentId =>
      readOnly (LightningGoats.xmrCreditAllocation intentId) .allocation
  | markInterruptedFeedIntentsUnknown =>
      transact LightningGoats.markInterruptedFeedIntentsUnknown .count
  | beginFeedAttempt thresholdSats drawn =>
      transact (LightningGoats.beginFeedAttempt thresholdSats drawn now) .attempt
  | confirmFeedAttempt id =>
      transact (LightningGoats.confirmFeedAttempt id now) fun _ => .done
  | markFeedUnknown id error =>
      transact (LightningGoats.markFeedUnknown id error) fun _ => .done
  | reconcileUnknownAsFed id =>
      transact (LightningGoats.reconcileUnknownAsFed id now) fun _ => .done
  | reconcileUnknownAsNotFed id =>
      transact (LightningGoats.reconcileUnknownAsNotFed id now) fun _ => .done
  | resolveFeedNotDispatched id retryAfterSeconds =>
      transact (LightningGoats.resolveFeedNotDispatched id retryAfterSeconds now)
        fun _ => .done
  | unresolvedFeedAttempt => readOnly LightningGoats.unresolvedFeedAttempt .stored
  | feedCreditSats => readOnly LightningGoats.feedCreditSats .count
  | appendEvent event => transact (LightningGoats.appendEvent event) .count
  | eventsAfter afterSeq limit =>
      readOnly (LightningGoats.eventsAfter afterSeq limit) .events
  | latestEventSeq => readOnly (fun db => .ok (LightningGoats.latestEventSeq db)) .count
  | overlaySnapshotMessage thresholdSats =>
      readOnly (LightningGoats.overlaySnapshotMessage thresholdSats)
        fun message => .snapshot message.1 message.2
  | recordStrikeReceiveRequest request =>
      transact (LightningGoats.recordStrikeReceiveRequest request now) fun _ => .done
  | strikeReceiveRequest receiveRequestId =>
      readOnly (LightningGoats.strikeReceiveRequest receiveRequestId) .request
  | enqueueStrikeEvent event =>
      transact (LightningGoats.enqueueStrikeEvent event now) fun _ => .done
  | enqueueStrikeWork key event =>
      transact (LightningGoats.enqueueStrikeWork key event now) fun _ => .done
  | dueStrikeWork => readOnly (fun db => .ok (LightningGoats.dueStrikeWork now db)) .work
  | finishStrikeWork key => transact (LightningGoats.finishStrikeWork key) fun _ => .done
  | retryStrikeWork key attempts =>
      transact (LightningGoats.retryStrikeWork key attempts now) fun _ => .done
  | dueStrikeScan => readOnly (fun db => .ok (LightningGoats.dueStrikeScan now db)) .scan
  | recordStrikeScan id offset attempts delay =>
      transact (LightningGoats.recordStrikeScan id offset attempts delay now) fun _ => .done

/-- Execute a call: commit on success, roll back on error. -/
def execute [SerdeJson] (call : LedgerCall) (now : Int) (db : Db) :
    Except LedgerError LedgerResponse × Db :=
  match call.body now db with
  | .ok (response, committed) => (.ok response, committed)
  | .error error => (.error error, db)

theorem execute_error [SerdeJson] {call : LedgerCall} {now : Int} {db : Db}
    {error : LedgerError} :
    (execute call now db).1 = .error error ↔ call.body now db = .error error := by
  unfold execute
  split
  · rename_i succeeded
    simp [succeeded]
  · rename_i failed
    simp [failed]

structure LedgerLabel where
  call : LedgerCall
  now : Int
  result : Except LedgerError LedgerResponse

def LedgerStep [SerdeJson] (before : Db) (label : LedgerLabel) (after : Db) : Prop :=
  execute label.call label.now before = (label.result, after)

abbrev LedgerRun [SerdeJson] : Db → List LedgerLabel → Db → Prop :=
  Execution.Run LedgerStep

def labelsOf [SerdeJson] : List (LedgerCall × Int) → Db → List LedgerLabel
  | [], _ => []
  | (call, now) :: rest, db =>
      ⟨call, now, (execute call now db).1⟩ :: labelsOf rest (execute call now db).2

def replay [SerdeJson] (calls : List (LedgerCall × Int)) (db : Db) : Db :=
  calls.foldl (fun current next => (execute next.1 next.2 current).2) db

theorem replay_run [SerdeJson] (calls : List (LedgerCall × Int)) (db : Db) :
    LedgerRun db (labelsOf calls db) (replay calls db) := by
  induction calls generalizing db with
  | nil => exact .nil db
  | cons head rest induction => exact .cons rfl (induction _)

theorem run_replay [SerdeJson] {before after : Db} {labels : List LedgerLabel}
    (run : LedgerRun before labels after) :
    after = replay (labels.map fun label => (label.call, label.now)) before := by
  induction run with
  | nil => rfl
  | @cons before middle after label labels step _ induction =>
      have executed : execute label.call label.now before = (label.result, middle) := step
      rw [induction, List.map_cons, replay, replay, List.foldl_cons, executed]

section Steps

variable [SerdeJson] {before after : Db} {label : LedgerLabel}

/-- A step either failed and changed nothing, or committed what its body computed. -/
theorem ledgerStep_cases (step : LedgerStep before label after) :
    (∃ error, label.result = .error error ∧ after = before) ∨
      ∃ response, label.result = .ok response ∧
        label.call.body label.now before = .ok (response, after) := by
  unfold LedgerStep execute at step
  split at step
  · rename_i response committed succeeded
    rw [Prod.mk.injEq] at step
    exact .inr ⟨response, step.1.symm, by rw [succeeded, step.2]⟩
  · rename_i error failed
    rw [Prod.mk.injEq] at step
    exact .inl ⟨error, step.1.symm, step.2.symm⟩

theorem ledgerStep_error (step : LedgerStep before label after) {error : LedgerError}
    (failed : label.result = .error error) : after = before := by
  rcases ledgerStep_cases step with ⟨_, _, unchanged⟩ | ⟨response, succeeded, _⟩
  · exact unchanged
  · rw [failed] at succeeded
    cases succeeded

end Steps

/-! ## An example

A payment of 5 sats, an intent of 2 sats for 5 piconero with a receipt of 3,
and a feed of 3 sats.
-/

@[reducible] def exampleJson : SerdeJson where
  isObject text := if text = "\x7b\x7d" then some true else none

def examplePayment : SettledPayment where
  source := "strike"
  sourceId := "first"
  paymentHash := none
  addressUser := "dexter"
  creditPool := "herd"
  amountMsat := 5000
  settledAt := none
  contextJson := none

def exampleQuote : XmrQuote where
  terms := ⟨.xmr, 5, 2, by decide, by decide, by decide, by decide⟩
  rate := ⟨2 * piconeroPerXmr, 5, "oracle", 0, by decide, by decide, by decide, by decide,
    by decide⟩
  issuedAt := 10
  expiresAt := 20
  isXmr := rfl
  priced := by decide
  issuedNonneg := by decide
  ordered := by decide
  observedBefore := by decide

def exampleIntent : XmrCreditIntent where
  id := ⟨1⟩
  provider := "bridge"
  network := .mainnet
  accountScope := "account"
  receiveScope := "address"
  addressUser := "dexter"
  creditPool := "herd"
  quote := exampleQuote
  maxCreditSats := 2

/-- An unlocked observation at the binding of the example intent, at time 12. -/
def exampleObservation (receiptKey : String) (amount : AssetAmount) :
    XmrReceiptObservation where
  provider := "bridge"
  network := .mainnet
  accountScope := "account"
  receiveScope := "address"
  receiptKey := receiptKey
  amount := amount
  firstSeenAt := 12
  unlocked := true
  doubleSpendSeen := false

def exampleCalls : List (LedgerCall × Int) :=
  [(.recordPayment examplePayment, 11),
    (.registerXmrCreditIntent exampleIntent, 11),
    (.recordXmrReceipt ⟨1⟩ (exampleObservation "a" ⟨.xmr, 3, by decide⟩), 12),
    (.beginFeedAttempt 3 ⟨7⟩, 13),
    (.confirmFeedAttempt ⟨7⟩, 14)]

def threePiconero : AssetAmount :=
  ⟨.xmr, 3, by decide⟩

def twoPiconero : AssetAmount :=
  ⟨.xmr, 2, by decide⟩

def exampleDb : Db :=
  @replay exampleJson exampleCalls Db.fresh

theorem exampleRun :
    @LedgerRun exampleJson Db.fresh (@labelsOf exampleJson exampleCalls Db.fresh) exampleDb :=
  @replay_run exampleJson exampleCalls Db.fresh

end LightningGoats
