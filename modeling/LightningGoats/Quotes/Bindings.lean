import LightningGoats.Ledger.CreditTables
import LightningGoats.Quotes.Undisturbed

/-! # Bindings of ready quotes

A binding is written together with the valuation of its quote. Whatever else
registers intents, the valuation's own uniqueness keeps two bindings from
sharing a receive scope.
-/

namespace LightningGoats

open Outcome Relational

/-! ## Clocked rows -/

structure RowsClocked (db : QuoteDb) : Prop where
  requested : ∀ row ∈ db.xmrQuoteRequests.rows, row.requestedAt ≤ db.xmrQuoteClock
  nonneg : 0 ≤ db.xmrQuoteClock

theorem RowsClocked.ofFresh : RowsClocked .fresh where
  requested := by simp [QuoteDb.fresh]
  nonneg := Int.le_refl 0

theorem ValuesIntent.stored {intent : XmrCreditIntent} {before after : Db}
    (values : ValuesIntent intent before after) :
    intent.stored ∈ after.creditValuations.rows := by
  cases values with
  | known stored => exact stored
  | registers registers => exact registers.stored

/-! ## What backs a binding -/

structure Backs [QuoteJson] (quote : StoredXmrQuote) (intent : XmrCreditIntent) (binding : QuoteBinding)
    (db : QuoteDb) : Prop where
  sameId : binding.quoteId = quote.id
  sameValuation : binding.valuationId = xmrId intent.id
  isIntent : quote.creditIntent binding.receiveScope = .ok intent
  valued : intent.stored ∈ db.ledger.creditValuations.rows
  ready : ∃ row ∈ db.xmrQuoteRequests.rows,
    row.id = quote.id ∧ row.status = .ready quote.documentJson
  inTime : quote.quote.issuedAt ≤ binding.boundAt ∧ binding.boundAt < quote.quote.expiresAt

def BindingsBacked [QuoteJson] (db : QuoteDb) : Prop :=
  ∀ binding ∈ db.xmrQuoteBindings.rows, ∃ quote intent, Backs quote intent binding db

/-! ## Binding again -/

theorem findBinding_of_mem {binding : QuoteBinding} {db : QuoteDb}
    (member : binding ∈ db.xmrQuoteBindings.rows) :
    findBinding binding.quoteId db = some binding := by
  refine db.xmrQuoteBindings.find?_eq_some_of_clash _ member (by simp)
    fun left right isLeft isRight => .inl (sameKey_iff.mpr ⟨binding.quoteId, ?_, ?_⟩)
  · exact congrArg some (decide_eq_true_eq.mp isLeft)
  · exact congrArg some (decide_eq_true_eq.mp isRight)

section Again

variable [QuoteJson]

theorem found_of_bind {quote : StoredXmrQuote} {intent : XmrCreditIntent} {now : Int}
    {before after : QuoteDb} (ran : bindXmrQuote quote intent now before = .ok after) :
    (∃ row ∈ before.xmrQuoteRequests.rows,
      row.id = quote.id ∧ row.status = .ready quote.documentJson) ∧
      ∃ bound, registerIntent intent bound = .ok after := by
  simp only [bindXmrQuote, bind_eq_ok, checkClock_eq_ok, require_eq_ok, ensure_eq_ok] at ran
  rcases ran with ⟨_, ⟨_, _, rfl⟩, saved, isSaved, _, rfl, bound, _, registered⟩
  exact ⟨readyDocument_eq_some.mp isSaved, bound, registered⟩

/-- A bound quote is bound again in the same way, at any time, by a tick of the clock. -/
theorem bindXmrQuote_again {quote : StoredXmrQuote} {intent : XmrCreditIntent} {now : Int}
    {bound registered db : QuoteDb} {binding : QuoteBinding}
    (accepted : registerIntent intent bound = .ok registered) (ticks : Ticks now db)
    (ready : ∃ row ∈ db.xmrQuoteRequests.rows,
      row.id = quote.id ∧ row.status = .ready quote.documentJson)
    (valued : intent.stored ∈ db.ledger.creditValuations.rows)
    (member : binding ∈ db.xmrQuoteBindings.rows) (sameId : binding.quoteId = quote.id)
    (sameScope : binding.receiveScope = intent.receiveScope)
    (sameValuation : binding.valuationId = xmrId intent.id) :
    bindXmrQuote quote intent now db = .ok (db.tick now) := by
  have saved : readyDocument quote.id (db.tick now) = some quote.documentJson :=
    readyDocument_eq_some.mpr ready
  have found : findBinding quote.id (db.tick now) = some binding := by
    rw [← sameId]
    exact @findBinding_of_mem binding (db.tick now) member
  have kept : storeBinding quote intent now (db.tick now) = .ok (db.tick now) := by
    rw [storeBinding, found]
    exact bind_eq_ok.mpr ⟨.unit, ensure_of ⟨sameScope, sameValuation⟩, rfl⟩
  refine bind_eq_ok.mpr ⟨_, checkClock_of ticks, bind_eq_ok.mpr ⟨_, require_eq_ok.mpr saved,
    bind_eq_ok.mpr ⟨.unit, ensure_of rfl, bind_eq_ok.mpr ⟨_, kept, ?_⟩⟩⟩⟩
  exact registerIntent_again accepted valued

theorem bindXmrQuote_refuses {quote : StoredXmrQuote} {intent : XmrCreditIntent} {now : Int}
    {db : QuoteDb} {binding : QuoteBinding} (member : binding ∈ db.xmrQuoteBindings.rows)
    (sameId : binding.quoteId = quote.id) (otherScope : binding.receiveScope ≠ intent.receiveScope) :
    ∃ error, bindXmrQuote quote intent now db = .error error := by
  cases ran : bindXmrQuote quote intent now db with
  | error error => exact ⟨error, rfl⟩
  | ok after =>
      simp only [bindXmrQuote, bind_eq_ok, checkClock_eq_ok, ensure_eq_ok] at ran
      rcases ran with ⟨_, ⟨_, _, rfl⟩, _, _, _, _, bound, isBound, _⟩
      have found : findBinding quote.id (db.tick now) = some binding := by
        rw [← sameId]
        exact @findBinding_of_mem binding (db.tick now) member
      have refused : storeBinding quote intent now (db.tick now) = .error .differentBinding := by
        rw [storeBinding, found]
        dsimp only
        rw [keepBinding, Outcome.ensure, if_neg fun same => otherScope same.1]
        rfl
      cases refused.symm.trans isBound

/-- A ready quote without a binding is bound in time, once its intent is registered. -/
theorem bindXmrQuote_new {quote : StoredXmrQuote} {intent : XmrCreditIntent} {now : Int}
    {db registered : QuoteDb} (ticks : Ticks now db)
    (ready : ∃ row ∈ db.xmrQuoteRequests.rows,
      row.id = quote.id ∧ row.status = .ready quote.documentJson)
    (unbound : ∀ binding ∈ db.xmrQuoteBindings.rows,
      binding.quoteId ≠ quote.id ∧ binding.valuationId ≠ xmrId intent.id)
    (inTime : quote.quote.issuedAt ≤ now ∧ now < quote.quote.expiresAt)
    (registers : registerIntent intent (db.tick now) = .ok registered) :
    ∃ after, bindXmrQuote quote intent now db = .ok after ∧ after.xmrQuoteClock = now ∧
      after.xmrQuoteBindings.rows = db.xmrQuoteBindings.rows ++
        [⟨quote.id, xmrId intent.id, intent.receiveScope, now⟩] := by
  have saved : readyDocument quote.id (db.tick now) = some quote.documentJson :=
    readyDocument_eq_some.mpr ready
  have absent : findBinding quote.id (db.tick now) = none := by
    apply List.find?_eq_none.mpr
    intro binding member isQuote
    exact (unbound binding member).1 (of_decide_eq_true isQuote)
  have others : registered.xmrQuoteBindings = db.xmrQuoteBindings ∧
      registered.xmrQuoteClock = now := by
    rcases registerIntent_cases registers with ⟨unchanged, _⟩ | ⟨_, _, changed⟩
    · rw [unchanged]
      exact ⟨rfl, rfl⟩
    · rw [changed]
      exact ⟨rfl, rfl⟩
  have fresh : registered.xmrQuoteBindings.Fresh
      ⟨quote.id, xmrId intent.id, intent.receiveScope, now⟩ := by
    rw [others.1]
    rintro binding member (quotes | valuations)
    · rcases sameKey_iff.mp quotes with ⟨id, bindingId, quoteId⟩
      exact (unbound binding member).1 (Option.some.inj (bindingId.trans quoteId.symm))
    · rcases sameKey_iff.mp valuations with ⟨id, bindingId, valuationId⟩
      exact (unbound binding member).2 (Option.some.inj (bindingId.trans valuationId.symm))
  have inserted : insertRow "xmr_quote_bindings" QuoteBinding.Valid registered.xmrQuoteBindings
      ⟨quote.id, xmrId intent.id, intent.receiveScope, now⟩ = .ok (_, _) :=
    insertRow_eq_ok.mpr ⟨ticks.nonneg, rfl, fresh, rfl⟩
  let bound : QuoteDb :=
    { registered with xmrQuoteBindings := registered.xmrQuoteBindings.insert _ fresh }
  have stores : storeBinding quote intent now (db.tick now) = .ok bound := by
    rw [storeBinding, absent]
    exact bind_eq_ok.mpr ⟨.unit, ensure_of inTime, bind_eq_ok.mpr ⟨_, registers,
      bind_eq_ok.mpr ⟨_, liftLedger_of inserted, rfl⟩⟩⟩
  have valued : intent.stored ∈ registered.ledger.creditValuations.rows := by
    rcases registerIntent_cases registers with ⟨unchanged, stored⟩ | ⟨_, registered, changed⟩
    · rw [unchanged]
      exact stored
    · rw [changed]
      exact registered.stored
  refine ⟨bound, bind_eq_ok.mpr ⟨_, checkClock_of ticks, bind_eq_ok.mpr ⟨_, require_eq_ok.mpr saved,
    bind_eq_ok.mpr ⟨.unit, ensure_of rfl, bind_eq_ok.mpr ⟨bound, stores, ?_⟩⟩⟩⟩, others.2, ?_⟩
  · exact @registerIntent_again intent (db.tick now) registered bound registers valued
  · rw [Table.rows_insert, others.1]

end Again

/-! ## Histories -/

section Backing

variable [QuoteJson] [SerdeJson] {before after : QuoteDb} {change : QuoteChange}
  {changes : List QuoteChange}

theorem RowsClocked.of_changes (clocked : RowsClocked before)
    (step : QuoteChanges before change after) : RowsClocked after where
  requested := by
    intro row member
    rcases step.mem_rows member with ⟨old, isOld, rfl⟩ | isNew
    · rw [change.develop_requestedAt]
      exact Int.le_trans (clocked.requested old isOld) step.clock_mono
    · cases step <;> cases isNew
      exact Int.le_refl _
  nonneg := Int.le_trans clocked.nonneg step.clock_mono

theorem RowsClocked.of_history (clocked : RowsClocked before)
    (history : QuoteHistory before changes after) : RowsClocked after :=
  Execution.Run.invariant (fun holds step => RowsClocked.of_changes holds step) history clocked

theorem QuoteChanges.valuation_mem (step : QuoteChanges before change after)
    {valuation : Valuation} (member : valuation ∈ before.ledger.creditValuations.rows) :
    valuation ∈ after.ledger.creditValuations.rows := by
  have valued : ∀ {intent : XmrCreditIntent} {ledger : Db},
      ValuesIntent intent before.ledger ledger → valuation ∈ ledger.creditValuations.rows := by
    intro intent ledger values
    cases values with
    | known => exact member
    | registers registers => exact valuation_of_quiet (.registers registers) member
  cases step with
  | completes _ _ _ _ _ _ _ marks =>
      rw [settleQuoteRequest_ledger, marks.eq_with]
      exact member
  | binds _ _ _ _ _ _ _ values => exact valued values
  | rebinds _ _ _ _ _ _ values => exact valued values
  | ledger step => exact valuation_of_step step member
  | _ => exact member

theorem QuoteChanges.binding_mem (step : QuoteChanges before change after)
    {binding : QuoteBinding} (member : binding ∈ before.xmrQuoteBindings.rows) :
    binding ∈ after.xmrQuoteBindings.rows := by
  cases step with
  | completes _ _ _ _ _ _ _ marks =>
      rw [settleQuoteRequest_xmrQuoteBindings, marks.eq_with]
      exact member
  | binds _ _ _ _ _ _ _ _ fresh => exact Table.mem_rows_insert_old fresh member
  | _ => exact member

theorem QuoteChanges.ready_mem (step : QuoteChanges before change after) {id : Uuid}
    {documentJson : String}
    (ready : ∃ row ∈ before.xmrQuoteRequests.rows,
      row.id = id ∧ row.status = .ready documentJson) :
    ∃ row ∈ after.xmrQuoteRequests.rows, row.id = id ∧ row.status = .ready documentJson := by
  rcases ready with ⟨row, member, sameId, isReady⟩
  exact ⟨row, step.settled_mem member (by simp [isReady]), sameId, isReady⟩

theorem Backs.of_changes {quote : StoredXmrQuote} {intent : XmrCreditIntent}
    {binding : QuoteBinding} (backs : Backs quote intent binding before)
    (step : QuoteChanges before change after) : Backs quote intent binding after :=
  { backs with
    valued := step.valuation_mem backs.valued
    ready := step.ready_mem backs.ready }

theorem QuoteHistory.valuation_mem (history : QuoteHistory before changes after)
    {valuation : Valuation} (member : valuation ∈ before.ledger.creditValuations.rows) :
    valuation ∈ after.ledger.creditValuations.rows := by
  induction history with
  | nil => exact member
  | cons step _ induction => exact induction (step.valuation_mem member)

theorem QuoteHistory.ready_mem (history : QuoteHistory before changes after) {id : Uuid}
    {documentJson : String}
    (ready : ∃ row ∈ before.xmrQuoteRequests.rows,
      row.id = id ∧ row.status = .ready documentJson) :
    ∃ row ∈ after.xmrQuoteRequests.rows, row.id = id ∧ row.status = .ready documentJson := by
  induction history with
  | nil => exact ready
  | cons step _ induction => exact induction (step.ready_mem ready)

theorem QuoteHistory.binding_mem (history : QuoteHistory before changes after)
    {binding : QuoteBinding} (member : binding ∈ before.xmrQuoteBindings.rows) :
    binding ∈ after.xmrQuoteBindings.rows := by
  induction history with
  | nil => exact member
  | cons step _ induction => exact induction (step.binding_mem member)

theorem QuoteChanges.bound {quote : StoredXmrQuote} {intent : XmrCreditIntent} {now : Int}
    (step : QuoteChanges before (.binds quote intent now) after) :
    quote.creditIntent intent.receiveScope = .ok intent ∧
      intent.stored ∈ after.ledger.creditValuations.rows ∧
      ∃ binding ∈ after.xmrQuoteBindings.rows, binding.quoteId = quote.id ∧
        binding.receiveScope = intent.receiveScope ∧ binding.valuationId = xmrId intent.id := by
  cases step with
  | binds _ _ _ _ _ _ isIntent values fresh =>
      exact ⟨isIntent, values.stored, _, Table.mem_rows_insert_new fresh, rfl, rfl, rfl⟩
  | rebinds _ bound sameId sameScope sameValuation isIntent values =>
      exact ⟨isIntent, values.stored, _, bound, sameId, sameScope, sameValuation⟩

theorem BindingsBacked.of_changes (backed : BindingsBacked before)
    (step : QuoteChanges before change after) : BindingsBacked after := by
  have kept : ∀ binding ∈ before.xmrQuoteBindings.rows,
      ∃ quote intent, Backs quote intent binding after := by
    intro binding member
    rcases backed binding member with ⟨quote, intent, backs⟩
    exact ⟨quote, intent, backs.of_changes step⟩
  intro binding member
  have stepped := step
  cases step with
  | completes _ _ _ _ _ _ _ marks =>
      rw [settleQuoteRequest_xmrQuoteBindings, marks.eq_with] at member
      exact kept binding member
  | @binds _ row quote intent now _ _ isRow sameId isReady issued unexpired isIntent values fresh =>
      rcases (Table.mem_rows_insert fresh).mp member with old | rfl
      · exact kept binding old
      · exact ⟨quote, intent, rfl, rfl, isIntent, values.stored, ⟨row, isRow, sameId, isReady⟩,
          issued, unexpired⟩
  | _ => exact kept binding member

theorem BindingsBacked.of_history (backed : BindingsBacked before)
    (history : QuoteHistory before changes after) : BindingsBacked after :=
  Execution.Run.invariant (fun holds step => BindingsBacked.of_changes holds step) history backed

end Backing

/-! ## Runs -/

theorem bindings_unique {db : QuoteDb} {left right : QuoteBinding}
    (leftMember : left ∈ db.xmrQuoteBindings.rows) (rightMember : right ∈ db.xmrQuoteBindings.rows)
    (sameQuote : left.quoteId = right.quoteId) : left = right :=
  db.xmrQuoteBindings.row_eq_of_clash leftMember rightMember
    (.inl (sameKey_iff.mpr ⟨left.quoteId, rfl, congrArg some sameQuote.symm⟩))

section Runs

variable [QuoteJson]

theorem bindings_share_no_scope {db : QuoteDb} (backed : BindingsBacked db)
    {left right : QuoteBinding} {leftValuation rightValuation : Valuation}
    (leftMember : left ∈ db.xmrQuoteBindings.rows)
    (rightMember : right ∈ db.xmrQuoteBindings.rows)
    (leftValued : leftValuation ∈ db.ledger.creditValuations.rows)
    (rightValued : rightValuation ∈ db.ledger.creditValuations.rows)
    (leftId : leftValuation.id = left.valuationId)
    (rightId : rightValuation.id = right.valuationId)
    (sameAccount : leftValuation.network = rightValuation.network ∧
      leftValuation.provider = rightValuation.provider ∧
      leftValuation.accountScope = rightValuation.accountScope)
    (sameScope : left.receiveScope = right.receiveScope) : left = right := by
  -- A binding's valuation is that of its intent, with the binding's own scope.
  have ofBinding : ∀ binding ∈ db.xmrQuoteBindings.rows,
      ∀ valuation ∈ db.ledger.creditValuations.rows, valuation.id = binding.valuationId →
        valuation.asset = .xmr ∧ valuation.receiveScope = binding.receiveScope := by
    intro binding member valuation valued sameId
    rcases backed binding member with ⟨quote, intent, backs⟩
    have isStored : valuation = intent.stored :=
      db.ledger.creditValuations.row_eq_of_clash valued backs.valued
        (.inl (sameKey_iff.mpr ⟨valuation.id, rfl,
          congrArg some (backs.sameValuation.symm.trans sameId.symm)⟩))
    rw [isStored]
    refine ⟨rfl, ?_⟩
    change intent.receiveScope = binding.receiveScope
    rw [(StoredXmrQuote.creditIntent_fields backs.isIntent).2]
  rcases ofBinding left leftMember leftValuation leftValued leftId with ⟨leftXmr, leftScope⟩
  rcases ofBinding right rightMember rightValuation rightValued rightId with
    ⟨rightXmr, rightScope⟩
  have sameValuation : leftValuation = rightValuation := by
    refine db.ledger.creditValuations.row_eq_of_clash leftValued rightValued
      (.inr (sameKey_iff.mpr ⟨_, rfl, ?_⟩))
    rw [leftXmr, rightXmr, sameAccount.1, sameAccount.2.1, sameAccount.2.2, leftScope,
      rightScope, sameScope]
  refine db.xmrQuoteBindings.row_eq_of_clash leftMember rightMember
    (.inr (sameKey_iff.mpr ⟨left.valuationId, rfl, ?_⟩))
  rw [← leftId, ← rightId, sameValuation]

/-- A statement of a bind call is the successful bind, or leaves the store alone. -/
theorem QuoteActs.bind_cases {caller : QuoteCaller} {pc : QuotePc} {db after : QuoteDb}
    {event : QuoteEvent} {next : QuoteNext} {receiveScope : String}
    (acts : QuoteActs caller pc db event next after) (sound : pc.Sound caller)
    (isBind : caller.operation = .bind receiveScope) :
    after = db ∨ ∃ stored intent now replied,
      event = .bound stored intent now replied (.ok ()) ∧
        (replied = true → next.response = some (.ok (.intent intent))) := by
  have notCreate : caller.operation ≠ .create := by simp [isBind]
  cases acts with
  | reserved => exact absurd sound.1 notCreate
  | completed => exact absurd sound.1 notCreate
  | markedFailed => exact absurd sound notCreate
  | @bound stored intent now _ _ _ replied ran =>
      rcases commit_cases ran with ⟨_, rfl, _⟩ | ⟨_, rfl, _, unchanged⟩
      · exact .inr ⟨stored, intent, now, replied, rfl, by rintro rfl; rfl⟩
      · exact .inl unchanged
  | _ => exact .inl rfl

variable [SerdeJson] {labels : List QuoteLabel} {system : QuoteSystem}

theorem BindingsBacked.of_run (run : QuoteRun .initial labels system) :
    BindingsBacked system.db := by
  have none : BindingsBacked .fresh := by simp [BindingsBacked, QuoteDb.fresh]
  exact none.of_history run.history

/-- What a call holds at its bind, and what an accepted bind leaves in the store. -/
theorem QuoteStep.accepted {source target : QuoteSystem} {index : Nat} {caller : QuoteCaller}
    {stored : StoredXmrQuote} {intent : XmrCreditIntent} {now : Int} {replied : Bool}
    {response : Option QuoteResponse} (sound : CallsSound source)
    (step : QuoteStep source
      (.acted index caller (.bound stored intent now replied (.ok ())) response) target) :
    caller.operation = .bind intent.receiveScope ∧ caller.Identifies stored.identityJson ∧
      bindXmrQuote stored intent now source.db = .ok target.db := by
  cases step with
  | acts running acts =>
      have held := sound _ _ running
      generalize isEvent : QuoteEvent.bound stored intent now replied (.ok ()) = event at acts
      generalize isPc : QuoteCall.pc _ = pc at acts held
      cases acts <;> cases isEvent
      rename_i ran
      rcases commit_cases ran with ⟨_, _, bound⟩ | ⟨_, impossible, _⟩
      · exact ⟨held.1, held.2.1, withUnit_eq_ok.mp bound⟩
      · cases impossible

/-- The statements of a bind that was accepted before succeed at any later time. -/
theorem bind_again {earlier later : List QuoteLabel} {source target : QuoteSystem}
    {index : Nat} {caller : QuoteCaller} {stored : StoredXmrQuote} {intent : XmrCreditIntent}
    {bindTime now : Int} {replied : Bool} {response : Option QuoteResponse}
    (before : QuoteRun .initial earlier source)
    (step : QuoteStep source
      (.acted index caller (.bound stored intent bindTime replied (.ok ())) response) target)
    (after : QuoteRun target later system) (notBehind : system.db.xmrQuoteClock ≤ now) :
    afterSlot caller true = .goto (.sampleRead stored.identityJson) ∧
      readXmrQuote caller.request.id stored.identityJson now system.db =
        .ok stored.documentJson ∧
      afterRead caller.operation stored.identityJson (.ok stored.documentJson) =
        .goto (.sampleBind stored intent) ∧
      bindXmrQuote stored intent now system.db = .ok (system.db.tick now) := by
  have sound : CallsSound source := CallsSound.ofInitial.of_run before
  have changes : QuoteChanges source.db (.binds stored intent bindTime) target.db :=
    QuoteStep.changes step sound
  have history := QuoteRun.changes after (sound.of_step step)
  have whole := (before.append (.single step)).append after
  rcases step.accepted sound with ⟨isBind, identifies, accepted⟩
  rcases found_of_bind accepted with ⟨ready, bound, registered⟩
  rcases changes.bound with ⟨isIntent, valued, binding, member, sameId, sameScope,
    sameValuation⟩
  have readyNow := history.ready_mem (changes.ready_mem ready)
  have clocked : RowsClocked system.db :=
    RowsClocked.ofFresh.of_history (QuoteRun.history whole)
  refine ⟨?_, ?_, ?_, ?_⟩
  · rcases identifies with ⟨value, isIdentity, written⟩
    simp only [afterSlot, isIdentity, isBind, if_pos, written]
  · rcases readyNow with ⟨row, isRow, _, isReady⟩
    rcases (ReadyRows.of_run whole).completedOf row isRow _ isReady with ⟨quote, _, holds⟩
    have sameQuote : quote = stored :=
      StoredXmrQuote.eq_of_documentJson
        (QuoteStatus.ready.inj (holds.2.2.symm.trans isReady))
    rw [sameQuote] at holds
    rw [← identifies.id_eq]
    exact read_ready isRow holds (Int.le_trans (clocked.requested row isRow) notBehind)
  · have decoded : StoredXmrQuote.decode stored.documentJson stored.identityJson = .ok stored :=
      StoredXmrQuote.decode_eq_ok.mpr ⟨rfl, rfl⟩
    simp only [afterRead, decoded, afterLookup, isBind, isIntent]
  · exact bindXmrQuote_again registered
      ⟨notBehind, Int.le_trans clocked.nonneg notBehind⟩ readyNow
      (history.valuation_mem valued) (history.binding_mem member) sameId sameScope sameValuation

/-- What the bindings of a run are, and what its binds leave behind. -/
structure BindingsHold (labels : List QuoteLabel) (system : QuoteSystem) : Prop where
  unique : ∀ left ∈ system.db.xmrQuoteBindings.rows, ∀ right ∈ system.db.xmrQuoteBindings.rows,
    left.quoteId = right.quoteId → left = right
  kept : ∀ earlier later middle, labels = earlier ++ later → QuoteRun .initial earlier middle →
    QuoteRun middle later system → ∀ binding ∈ middle.db.xmrQuoteBindings.rows,
      binding ∈ system.db.xmrQuoteBindings.rows
  ownScope : ∀ left ∈ system.db.xmrQuoteBindings.rows,
    ∀ right ∈ system.db.xmrQuoteBindings.rows,
    ∀ leftValuation ∈ system.db.ledger.creditValuations.rows,
    ∀ rightValuation ∈ system.db.ledger.creditValuations.rows,
      leftValuation.id = left.valuationId → rightValuation.id = right.valuationId →
      (leftValuation.network = rightValuation.network ∧
        leftValuation.provider = rightValuation.provider ∧
        leftValuation.accountScope = rightValuation.accountScope) →
      left.receiveScope = right.receiveScope → left = right
  backed : ∀ binding ∈ system.db.xmrQuoteBindings.rows,
    ∃ quote ∈ completions labels, ∃ intent, Backs quote intent binding system.db
  errorsWriteNothing : ∀ earlier index caller receiveScope event response later source target,
    labels = earlier ++ .acted index caller event response :: later →
    QuoteRun .initial earlier source →
    QuoteStep source (.acted index caller event response) target →
    caller.operation = .bind receiveScope →
      target.db = source.db ∨ ∃ stored intent now replied,
        event = .bound stored intent now replied (.ok ()) ∧
          (replied = true → response = some (.ok (.intent intent)))
  accepted : ∀ index caller stored intent bindTime replied response,
    .acted index caller (.bound stored intent bindTime replied (.ok ())) response ∈ labels →
      stored.creditIntent intent.receiveScope = .ok intent ∧
      intent.stored ∈ system.db.ledger.creditValuations.rows ∧
      (∃ binding ∈ system.db.xmrQuoteBindings.rows, binding.quoteId = stored.id ∧
        binding.receiveScope = intent.receiveScope ∧ binding.valuationId = xmrId intent.id) ∧
      ∀ quote other now, quote.id = stored.id → other.receiveScope ≠ intent.receiveScope →
        ∃ error, bindXmrQuote quote other now system.db = .error error
  again : ∀ earlier index caller stored intent bindTime replied response later source target,
    labels = earlier ++
      .acted index caller (.bound stored intent bindTime replied (.ok ())) response :: later →
    QuoteRun .initial earlier source →
    QuoteStep source
      (.acted index caller (.bound stored intent bindTime replied (.ok ())) response) target →
    QuoteRun target later system → ∀ now, system.db.xmrQuoteClock ≤ now →
      afterSlot caller true = .goto (.sampleRead stored.identityJson) ∧
      readXmrQuote caller.request.id stored.identityJson now system.db =
        .ok stored.documentJson ∧
      afterRead caller.operation stored.identityJson (.ok stored.documentJson) =
        .goto (.sampleBind stored intent) ∧
      bindXmrQuote stored intent now system.db = .ok (system.db.tick now)

/-- An accepted bind leaves its binding and valuation, and keeps its quote from being
bound to another scope. -/
theorem bound_last (run : QuoteRun .initial labels system) {index : Nat} {caller : QuoteCaller}
    {stored : StoredXmrQuote} {intent : XmrCreditIntent} {bindTime : Int} {replied : Bool}
    {response : Option QuoteResponse}
    (accepted : .acted index caller (.bound stored intent bindTime replied (.ok ())) response ∈
      labels) :
    stored.creditIntent intent.receiveScope = .ok intent ∧
      intent.stored ∈ system.db.ledger.creditValuations.rows ∧
      ∃ binding ∈ system.db.xmrQuoteBindings.rows, binding.quoteId = stored.id ∧
        binding.receiveScope = intent.receiveScope ∧ binding.valuationId = xmrId intent.id := by
  rcases List.append_of_mem accepted with ⟨earlier, later, rfl⟩
  rcases run.at_split with ⟨source, target, before, step, after⟩
  have sound : CallsSound source := CallsSound.ofInitial.of_run before
  have changes : QuoteChanges source.db (.binds stored intent bindTime) target.db :=
    QuoteStep.changes step sound
  have history := QuoteRun.changes after (sound.of_step step)
  rcases changes.bound with ⟨isIntent, valued, binding, member, same⟩
  exact ⟨isIntent, history.valuation_mem valued, binding, history.binding_mem member, same⟩

/-- A quote is bound once, in time and for what its document says, to a receive
scope of its own. A bind that fails writes nothing, and one that succeeded
succeeds again without writing anything and is the only one there will be. -/
theorem quote_bindings_hold (run : QuoteRun .initial labels system) :
    BindingsHold labels system := by
  have backed := BindingsBacked.of_run run
  constructor
  · exact fun left leftMember right rightMember => bindings_unique leftMember rightMember
  · intro earlier later middle _ before after binding member
    exact (QuoteRun.changes after (CallsSound.ofInitial.of_run before)).binding_mem member
  · exact fun left leftMember right rightMember leftValuation leftValued rightValuation
      rightValued => bindings_share_no_scope backed leftMember rightMember leftValued rightValued
  · intro binding member
    rcases backed binding member with ⟨quote, intent, backs⟩
    rcases backs.ready with ⟨row, isRow, _, isReady⟩
    rcases (ReadyRows.of_run run).completedOf row isRow _ isReady with ⟨completed, isCompleted,
      holds⟩
    have sameQuote : completed = quote :=
      StoredXmrQuote.eq_of_documentJson
        (QuoteStatus.ready.inj (holds.2.2.symm.trans isReady))
    exact ⟨quote, sameQuote ▸ isCompleted, intent, backs⟩
  · intro earlier index caller receiveScope event response later source target _ before step
      isBind
    have sound : CallsSound source := CallsSound.ofInitial.of_run before
    cases step with
    | acts running acts => exact acts.bind_cases (sound _ _ running) isBind
  · intro index caller stored intent bindTime replied response accepted
    rcases bound_last run accepted with ⟨isIntent, valued, binding, member, sameId, sameScope, same⟩
    refine ⟨isIntent, valued, ⟨binding, member, sameId, sameScope, same⟩, ?_⟩
    intro quote other now isQuote otherScope
    apply bindXmrQuote_refuses member (sameId.trans isQuote.symm)
    rw [sameScope]
    exact otherScope.symm
  · intro earlier index caller stored intent bindTime replied response later source target _
      before step after now notBehind
    exact bind_again before step after notBehind

/-! ## Undisturbed binds -/

def bindLabels (index : Nat) (caller : QuoteCaller) (looked now : Int) (quote : StoredXmrQuote)
    (intent : XmrCreditIntent) (result : Except QuoteError Unit) : List QuoteLabel :=
  beginLabels index caller looked ++
    [.acted index caller (.read looked (.ok quote.documentJson)) none,
      .acted index caller (.sampled (some now)) none,
      .acted index caller (.bound quote intent now true result) (afterBind intent true result).response]

omit [SerdeJson] in
theorem mem_bindLabels (index : Nat) (caller : QuoteCaller) (looked now : Int)
    (quote : StoredXmrQuote) (intent : XmrCreditIntent) (result : Except QuoteError Unit) :
    .acted index caller (.bound quote intent now true result) (afterBind intent true result).response ∈
      bindLabels index caller looked now quote intent result :=
  List.mem_append_right _ (List.mem_cons_of_mem _ (List.mem_cons_of_mem _ List.mem_cons_self))

theorem bind_run {calls : List QuoteCall} {caller : QuoteCaller} {value : Identity}
    {row : QuoteRequestRow} {quote : StoredXmrQuote} {intent : XmrCreditIntent}
    {receiveScope : String} {looked now : Int} {db after : QuoteDb} {result : Except QuoteError Unit}
    (isBind : caller.operation = .bind receiveScope)
    (isIdentity : Identity.new caller.request caller.service.context = .ok value)
    (member : row ∈ db.xmrQuoteRequests.rows) (holds : RowHolds row quote)
    (sameId : quote.id = caller.request.id)
    (sameIdentity : quote.identityJson = identityCodec.encode value)
    (requested : row.requestedAt ≤ looked)
    (isIntent : quote.creditIntent receiveScope = .ok intent)
    (ran : commit (withUnit (bindXmrQuote quote intent now db)) db = (result, after)) :
    QuoteRun ⟨db, calls⟩ (bindLabels calls.length caller looked now quote intent result)
      ⟨after, calls ++ [⟨caller, .done⟩]⟩ := by
  have isRead := read_ready member holds requested
  rw [sameId, sameIdentity] at isRead
  have decoded : StoredXmrQuote.decode quote.documentJson (identityCodec.encode value) =
      .ok quote := StoredXmrQuote.decode_eq_ok.mpr ⟨rfl, sameIdentity⟩
  have reads := @step_last _ _ calls caller _ _ _ _ _
    (.read (identityCodec.encode value) looked db)
  rw [isRead] at reads
  simp only [afterRead, decoded, afterLookup, isBind, isIntent] at reads
  have binds := @step_last _ _ calls caller _ _ _ _ _ (.bound true ran)
  have finished : (afterBind intent true result).pc = .done := by cases result <;> rfl
  rw [finished] at binds
  apply (lookup_begins (by simp [isBind]) isIdentity looked).append
  exact .cons reads (.cons (step_last (.sampledBind quote intent (some now) db)) (.single binds))

/-- A quote that is bound is refused another scope, and bound again as it was. -/
theorem binds_once {row : QuoteRequestRow} {quote : StoredXmrQuote}
    {intent other : XmrCreditIntent} {now last : Int} {db registered : QuoteDb}
    (ticks : Ticks now db) (member : row ∈ db.xmrQuoteRequests.rows) (holds : RowHolds row quote)
    (unbound : db.xmrQuoteBindings.rows = [])
    (inTime : quote.quote.issuedAt ≤ now ∧ now < quote.quote.expiresAt)
    (registers : registerIntent intent (db.tick now) = .ok registered)
    (isIntent : quote.creditIntent intent.receiveScope = .ok intent)
    (otherScope : intent.receiveScope ≠ other.receiveScope) (inOrder : now ≤ last) :
    ∃ bound, bindXmrQuote quote intent now db = .ok bound ∧
      (∀ later, ∃ error, bindXmrQuote quote other later bound = .error error) ∧
      bindXmrQuote quote intent last bound = .ok (bound.tick last) ∧
      row ∈ bound.xmrQuoteRequests.rows ∧
      bound.xmrQuoteBindings.rows = [⟨quote.id, xmrId intent.id, intent.receiveScope, now⟩] := by
  have isReady : row.status ≠ .reserved := holds.2.2 ▸ QuoteStatus.noConfusion
  rcases bindXmrQuote_new ticks ⟨row, member, holds.1, holds.2.2⟩ (by simp [unbound]) inTime
    registers with ⟨bound, isBound, boundAt, bindings⟩
  have changes := bindXmrQuote_changes isBound isIntent
  have stillReady := changes.settled_mem member isReady
  rcases changes.bound with ⟨_, valued, binding, isBinding, sameId, sameScope, sameValuation⟩
  have later : Ticks last bound := ⟨by rw [boundAt]; exact inOrder, ticks.nonneg.trans inOrder⟩
  refine ⟨bound, isBound, fun _ => ?_, ?_, stillReady, ?_⟩
  · apply bindXmrQuote_refuses isBinding sameId
    rw [sameScope]
    exact otherScope
  · exact bindXmrQuote_again registers later ⟨row, stillReady, holds.1, holds.2.2⟩ valued isBinding
      sameId sameScope sameValuation
  · rw [bindings, unbound]
    rfl

end Runs

def exampleBinder (receiveScope : String) : QuoteCaller :=
  ⟨exampleService, exampleRequest ⟨7⟩ 'a', .bind receiveScope⟩

/-- What request 7 is registered for. -/
def exampleIntentAt (receiveScope : String) : XmrCreditIntent where
  id := ⟨7⟩
  provider := "moneropay"
  network := .stagenet
  accountScope := "test-private-account"
  receiveScope := receiveScope
  addressUser := "nova"
  creditPool := "herd"
  quote := examplePrice
  maxCreditSats := 20000

theorem exampleIntentAt_registers :
    (registerXmrIntentInTransaction (exampleIntentAt "addr-A") .fresh).isOk = true := by
  decide +kernel

theorem exampleIntentAt_registered {db : QuoteDb} (isFresh : db.ledger = .fresh) :
    ∃ registered, registerIntent (exampleIntentAt "addr-A") db = .ok registered := by
  have succeeds := exampleIntentAt_registers
  rw [registerIntent, isFresh]
  cases registered : registerXmrIntentInTransaction (exampleIntentAt "addr-A") .fresh with
  | ok ledger => exact ⟨_, rfl⟩
  | error error =>
      rw [registered] at succeeds
      cases succeeds

theorem exampleIntentAt_of_quote [QuoteJson] {stored : StoredXmrQuote} (isId : stored.id = ⟨7⟩)
    (sameIdentity : stored.identityJson = exampleIdentityJson ⟨7⟩ 'a')
    (isPrice : stored.quote = examplePrice)
    (samePolicy : stored.parts.document.policy = examplePolicy) (receiveScope : String) :
    stored.creditIntent receiveScope = .ok (exampleIntentAt receiveScope) := by
  have identified : stored.parts.identity = exampleIdentity ⟨7⟩ 'a' :=
    stored.identity_of_identityJson sameIdentity
  simp only [StoredXmrQuote.creditIntent, identified, isPrice, isId, samePolicy]
  rfl

/-- A quote is bound to one address at 1050. It is then refused another address, and
at 2000, after its expiry, bound to the first one again. -/
theorem quote_bindings_hold_example :
    letI := exampleQuoteJson
    letI := exampleJson
    ∃ labels system stored, QuoteRun .initial labels system ∧
      .acted 1 (exampleBinder "addr-A") (.bound stored (exampleIntentAt "addr-A") 1050 true (.ok ()))
        (some (.ok (.intent (exampleIntentAt "addr-A")))) ∈ labels ∧
      (∃ error, .acted 2 (exampleBinder "addr-B")
        (.bound stored (exampleIntentAt "addr-B") 1060 true (.error error))
          (some (.error error)) ∈ labels) ∧
      .acted 3 (exampleBinder "addr-A") (.bound stored (exampleIntentAt "addr-A") 2000 true (.ok ()))
        (some (.ok (.intent (exampleIntentAt "addr-A")))) ∈ labels ∧
      system.db.xmrQuoteBindings.rows.map QuoteBinding.receiveScope = ["addr-A"] ∧
      BindingsHold labels system := by
  let := exampleQuoteJson
  let := exampleJson
  rcases example_creates [] with ⟨stored, db, created, issues, isPriced, samePolicy⟩
  rcases issues.member with ⟨row, member, holds, requested⟩
  have isIntent := exampleIntentAt_of_quote issues.sameId issues.sameIdentity isPriced samePolicy
  rcases @exampleIntentAt_registered (db.tick 1050) issues.ledger with ⟨registered, registers⟩
  have inTime : stored.quote.issuedAt ≤ 1050 ∧ 1050 < stored.quote.expiresAt := by
    rw [isPriced, examplePrice_fields.2.1, examplePrice_fields.2.2]
    decide
  have unbound : db.xmrQuoteBindings.rows = [] := by
    rw [issues.bindings]
    rfl
  rcases @binds_once _ _ row stored (exampleIntentAt "addr-A") (exampleIntentAt "addr-B") 1050 2000
    db registered (issues.ticks (by decide) (by decide)) member holds unbound inTime registers
    (isIntent "addr-A") (by decide) (by decide) with
    ⟨bound, isBound, refuses, again, stillReady, bindings⟩
  rcases refuses 1060 with ⟨error, refused⟩
  let creator : QuoteCall := ⟨exampleCreator ⟨7⟩ 'a', .done⟩
  let binder : QuoteCall := ⟨exampleBinder "addr-A", .done⟩
  let other : QuoteCall := ⟨exampleBinder "addr-B", .done⟩
  have requestedBy : ∀ looked, 1000 ≤ looked → row.requestedAt ≤ looked := by
    intro looked late
    rw [requested]
    exact late
  have first := @bind_run _ _ [creator] (exampleBinder "addr-A") _ _ _ _ _ 1050 1050 _ _ _ rfl
    exampleIdentity_new.1 member holds issues.sameId issues.sameIdentity
    (requestedBy 1050 (by decide)) (isIntent _)
    (commit_of_ok (withUnit_of_ok isBound))
  have second := @bind_run _ _ [creator, binder] (exampleBinder "addr-B") _ _ _ _ _ 1060 1060 _ _ _
    rfl exampleIdentity_new.1 stillReady holds issues.sameId issues.sameIdentity
    (requestedBy 1060 (by decide)) (isIntent _)
    (commit_of_error (withUnit_eq_error.mpr refused))
  have third := @bind_run _ _ [creator, binder, other] (exampleBinder "addr-A") _ _ _ _ _ 2000 2000
    _ _ _ rfl exampleIdentity_new.1 stillReady holds issues.sameId issues.sameIdentity
    (requestedBy 2000 (by decide)) (isIntent _)
    (commit_of_ok (withUnit_of_ok again))
  have run : QuoteRun .initial _ _ := created.append (first.append (second.append third))
  refine ⟨_, _, stored, run, ?_, ⟨error, ?_⟩, ?_, ?_,
    @quote_bindings_hold exampleQuoteJson exampleJson _ _ run⟩
  · apply List.mem_append_right
    exact List.mem_append_left _ (mem_bindLabels _ _ _ _ _ _ _)
  · apply List.mem_append_right
    apply List.mem_append_right
    exact List.mem_append_left _ (mem_bindLabels _ _ _ _ _ _ _)
  · apply List.mem_append_right
    apply List.mem_append_right
    exact List.mem_append_right _ (mem_bindLabels _ _ _ _ _ _ _)
  · change bound.xmrQuoteBindings.rows.map QuoteBinding.receiveScope = ["addr-A"]
    rw [bindings]
    rfl

end LightningGoats
