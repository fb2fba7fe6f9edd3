import LightningGoats.Quotes.Finality
import LightningGoats.Quotes.Rates

/-! # Readings in and out of order

Calls read the clock before their transactions. Whoever commits a later reading first
makes the durable clock refuse the others, although no clock has gone back.
-/

namespace LightningGoats

open Outcome Relational

/-! ## Refusals by the clock -/

def ClockError (error : QuoteError) : Prop :=
  error = .clockReconciliation ∨ error = .clockRegressed

section Transactions

variable {now : Int} {db : QuoteDb}

theorem insertRow_avoids {Row : Type} {clash : Row → Row → Prop} [DecidableRel clash]
    {valid : Row → Prop} [DecidablePred valid] (name : String) (table : Table clash) (row : Row) :
    Avoids ClockError (liftLedger (insertRow name valid table row)) :=
  .mapError (fun _ => by simp [ClockError]) _

theorem storedResult_avoids {row : QuoteRequestRow} {identity : String}
    (requested : row.identityJson = identity → row.requestedAt ≤ now) :
    Avoids ClockError (storedResult row identity now) := by
  rw [storedResult]
  split
  · exact .error (by simp [ClockError])
  · rename_i same
    rw [if_neg (Int.not_lt.mpr (requested (not_not.mp same)))]
    split
    · exact .ok _
    · split
      · exact .error (by simp [ClockError])
      · exact .error (by simp [ClockError])
    · exact .error (by simp [ClockError])

theorem readXmrQuote_avoids {id : Uuid} {identity : String}
    (requested : ∀ row ∈ db.xmrQuoteRequests.rows, row.id = id → row.identityJson = identity →
      row.requestedAt ≤ now) :
    Avoids ClockError (readXmrQuote id identity now db) := by
  apply Avoids.bind (.require (by simp [ClockError]))
  intro row found
  rcases findQuoteRequest_eq_some.mp (require_eq_ok.mp found) with ⟨member, sameId⟩
  exact storedResult_avoids (requested row member sameId)

theorem checkClock_behind (behind : now < db.xmrQuoteClock) :
    checkClock now db = .error .clockReconciliation := by
  have notTicks : ¬ (db.xmrQuoteClock ≤ now ∧ 0 ≤ now) := fun ticks =>
    absurd ticks.1 (Int.not_le.mpr behind)
  rw [checkClock, Outcome.ensure, if_neg notTicks]
  rfl

theorem reserveXmrQuote_avoids {request : QuoteRequest} {identity : String} {policy : QuotePolicy}
    (ticks : Ticks now db) (clocked : RowsClocked db) :
    Avoids ClockError (reserveXmrQuote request identity policy now db) := by
  rw [reserveXmrQuote, checkClock_of ticks, ok_bind]
  split
  · rename_i row found
    have found : findQuoteRequest request.id db = some row := found
    have requested := clocked.requested row (findQuoteRequest_eq_some.mp found).1
    apply Avoids.bind (storedResult_avoids fun _ => Int.le_trans requested ticks.notBehind)
    exact fun _ _ => .ok _
  · apply Avoids.bind (.ensure (by simp [ClockError]))
    intro _ _
    apply Avoids.bind (.ensure (by simp [ClockError]))
    intro _ _
    apply Avoids.bind (.require (by simp [ClockError]))
    intro _ _
    apply Avoids.bind (insertRow_avoids _ _ _)
    exact fun _ _ => .ok _

theorem markRate_avoids (rate : XmrBtcRate) : Avoids ClockError (markRate rate db) := by
  unfold markRate
  split
  · apply Avoids.bind (.require (by simp [ClockError]))
    intro _ _
    apply Avoids.bind (.require (by simp [ClockError]))
    intro _ _
    apply Avoids.bind (.ensure (by simp [ClockError]))
    intro _ _
    split
    · exact .ok _
    · exact .ok _
  · apply Avoids.bind (insertRow_avoids _ _ _)
    exact fun _ _ => .ok _

theorem registerIntent_avoids (intent : XmrCreditIntent) :
    Avoids ClockError (registerIntent intent db) := by
  apply Avoids.bind (.mapError (fun _ => by simp [ClockError]) _)
  exact fun _ _ => .ok _

variable [QuoteJson]

theorem completeXmrQuote_avoids {id : Uuid} {identity : String} {quote : StoredXmrQuote}
    (ticks : Ticks now db) : Avoids ClockError (completeXmrQuote id identity quote now db) := by
  rw [completeXmrQuote, checkClock_of ticks, ok_bind]
  apply Avoids.bind (.require (by simp [ClockError]))
  intro _ _
  apply Avoids.bind (.ensure (by simp [ClockError]))
  intro _ _
  apply Avoids.bind (markRate_avoids _)
  exact fun _ _ => .ok _

theorem storeBinding_avoids {quote : StoredXmrQuote} {intent : XmrCreditIntent} :
    Avoids ClockError (storeBinding quote intent now db) := by
  unfold storeBinding
  split
  · apply Avoids.bind (.ensure (by simp [ClockError]))
    exact fun _ _ => .ok _
  · apply Avoids.bind (.ensure (by simp [ClockError]))
    intro _ _
    apply Avoids.bind (registerIntent_avoids intent)
    intro _ _
    apply Avoids.bind (insertRow_avoids _ _ _)
    exact fun _ _ => .ok _

theorem bindXmrQuote_avoids {quote : StoredXmrQuote} {intent : XmrCreditIntent}
    (ticks : Ticks now db) : Avoids ClockError (bindXmrQuote quote intent now db) := by
  rw [bindXmrQuote, checkClock_of ticks, ok_bind]
  apply Avoids.bind (.require (by simp [ClockError]))
  intro _ _
  apply Avoids.bind (.ensure (by simp [ClockError]))
  intro _ _
  apply Avoids.bind storeBinding_avoids
  exact fun _ _ => registerIntent_avoids intent

end Transactions

/-! ## The durable clock -/

section Labels

variable [QuoteJson]

def QuoteChange.time : QuoteChange → Option Int
  | replays _ now => some now
  | reserves _ _ _ now => some now
  | completes _ now => some now
  | binds _ _ now => some now
  | _ => .none

def QuoteLabel.commits (label : QuoteLabel) : Option Int :=
  label.change.time

def QuoteEvent.uses : QuoteEvent → Option Int
  | reserved _ now _ _ => some now
  | completed _ now _ _ => some now
  | bound _ _ now _ _ => some now
  | _ => none

def QuoteEvent.refusal : QuoteEvent → Option QuoteError
  | reserved _ _ _ (.error error) => some error
  | completed _ _ _ (.error error) => some error
  | read _ (.error error) => some error
  | bound _ _ _ _ (.error error) => some error
  | _ => none

/-- Nobody commits a reading that is later than one which is still to be used: no
transaction runs after one with a later reading, and no lookup after a later
reservation of its own request. -/
def InReadingOrder (labels : List QuoteLabel) : Prop :=
  ∀ earlier index caller event response later,
    labels = earlier ++ .acted index caller event response :: later →
      (∀ held, event.uses = some held → ∀ other ∈ earlier, ∀ time,
        other.commits = some time → time ≤ held) ∧
      ∀ held result, event = .read held result → ∀ other ∈ earlier, ∀ row,
        other.change.added = some row → row.id = caller.request.id →
          caller.Identifies row.identityJson → row.requestedAt ≤ held

def QuoteLabel.fetchedRate : QuoteLabel → Option XmrBtcRate
  | acted _ _ (.fetched (some evidence)) _ => some evidence.rate
  | _ => none

def fetchedRates (labels : List QuoteLabel) : List XmrBtcRate :=
  labels.filterMap QuoteLabel.fetchedRate

/-- Every source gives one observation. -/
def SteadySource (labels : List QuoteLabel) : Prop :=
  ∀ left ∈ fetchedRates labels, ∀ right ∈ fetchedRates labels,
    left.source = right.source → left = right

/-- The clock refuses nobody, a completion within its reservation commits, and only the
call that made a reservation marks it as failed. -/
structure ClockSound (labels : List QuoteLabel) : Prop where
  refusesNone : ∀ index caller event response, .acted index caller event response ∈ labels →
    ∀ error, event.refusal = some error → ¬ ClockError error
  completes : ∀ earlier index caller stored now replied result response later,
    labels = earlier ++ .acted index caller (.completed stored now replied result) response :: later →
      ∀ identity start, .acted index caller (.reserved identity start true (.ok none)) none ∈ earlier →
        now < start + reservationSeconds → result = .ok ()
  failsOwn : ∀ earlier index caller replied response later,
    labels = earlier ++ .acted index caller (.markedFailed replied) response :: later →
      ReservedBy index caller earlier

variable [SerdeJson] {before after : QuoteDb} {change : QuoteChange}

theorem QuoteChanges.clock_eq (changes : QuoteChanges before change after) :
    after.xmrQuoteClock = change.time.getD before.xmrQuoteClock := by
  cases changes with
  | completes _ _ _ _ _ _ _ marks =>
      rw [settleQuoteRequest_xmrQuoteClock, marks.clock_eq]
      rfl
  | _ => rfl

theorem clock_committed {changes : List QuoteChange} (history : QuoteHistory before changes after) :
    after.xmrQuoteClock = before.xmrQuoteClock ∨
      ∃ change ∈ changes, change.time = some after.xmrQuoteClock := by
  induction history with
  | nil => exact .inl rfl
  | @cons _ _ _ change _ step _ induction =>
      cases induction with
      | inr later =>
          rcases later with ⟨other, isOther, isTime⟩
          exact .inr ⟨other, List.mem_cons_of_mem _ isOther, isTime⟩
      | inl same =>
          rw [same, step.clock_eq]
          cases isTime : change.time with
          | none => exact .inl rfl
          | some time => exact .inr ⟨change, List.mem_cons_self, isTime⟩

theorem committed_le {changes : List QuoteChange} (history : QuoteHistory before changes after)
    (isChange : change ∈ changes) {time : Int} (isTime : change.time = some time) :
    time ≤ after.xmrQuoteClock := by
  rcases List.append_of_mem isChange with ⟨left, right, rfl⟩
  rcases Execution.Run.at_split history with ⟨source, target, _, step, rest⟩
  have isClock := step.clock_eq
  rw [isTime] at isClock
  have later := QuoteHistory.clock_mono rest
  rw [isClock] at later
  exact later

end Labels

/-! ## What calls hold -/

section Holding

variable [QuoteJson]

def QuotePc.reading : QuotePc → Option Int
  | reserve _ now => some now
  | complete _ _ issuedAt => some issuedAt
  | read _ now => some now
  | bind _ _ now => some now
  | _ => none

def QuotePc.rate : QuotePc → Option XmrBtcRate
  | sampleIssue _ _ evidence => some evidence.rate
  | complete _ stored _ => some stored.rate
  | _ => none

def QuotePc.Dated : QuotePc → Prop
  | complete _ stored issuedAt => stored.quote.issuedAt = issuedAt
  | _ => True

theorem issueQuote_fields {service : QuoteService} {request : QuoteRequest} {identity : String}
    {now issuedAt : Int} {evidence : RateEvidence} {stored : StoredXmrQuote}
    (issued : issueQuote service request identity now issuedAt evidence = .ok stored) :
    stored.quote.issuedAt = issuedAt ∧ stored.rate = evidence.rate := by
  simp only [issueQuote, bind_eq_ok] at issued
  rcases issued with ⟨priced, prices, decoded⟩
  rcases StoredXmrQuote.decode_eq_ok.mp decoded with ⟨sameText, sameIdentity⟩
  simp only [priceQuote, bind_eq_ok, ensure_eq_ok] at prices
  rcases prices with ⟨_, ⟨isSource, _⟩, _⟩
  have read := readQuote_eq_ok.mp stored.decoded
  have isDocument := read.1
  rw [sameText, QuoteJson.readDocument_written] at isDocument
  have document := Option.some.inj isDocument
  rcases read.2.2.2.2.2.1 with ⟨numerator, isNumerator, denominator, isDenominator, isRate⟩
  rw [← document] at isNumerator isDenominator isRate
  have sourceValid := service.sourceValid
  rw [← isSource] at sourceValid
  rcases rate_of_texts sourceValid with
    ⟨_, readNumerator, _, readDenominator, readRate⟩
  cases readNumerator.symm.trans isNumerator
  cases readDenominator.symm.trans isDenominator
  have sameRate := Except.ok.inj (readRate.symm.trans isRate)
  have quoted := XmrBtcRate.quote_fields read.2.2.2.2.2.2.2.1
  refine ⟨?_, sameRate.symm⟩
  have sameIssued := quoted.2.1
  rw [← document] at sameIssued
  exact sameIssued

variable {caller : QuoteCaller} {pc : QuotePc} {db after : QuoteDb} {event : QuoteEvent}
  {next : QuoteNext}

theorem afterSlot_holds (granted : Bool) : (afterSlot caller granted).pc.reading = none ∧
    (afterSlot caller granted).pc.rate = none ∧ (afterSlot caller granted).pc.Dated := by
  fun_cases afterSlot <;> exact ⟨rfl, rfl, trivial⟩

theorem afterRead_holds (operation : QuoteOperation) (identity : String)
    (result : Except QuoteError String) : (afterRead operation identity result).pc.reading = none ∧
      (afterRead operation identity result).pc.rate = none ∧
      (afterRead operation identity result).pc.Dated := by
  fun_cases afterRead with
  | case3 => fun_cases afterLookup <;> exact ⟨rfl, rfl, trivial⟩
  | _ => exact ⟨rfl, rfl, trivial⟩

theorem QuoteActs.holds (acts : QuoteActs caller pc db event next after) (index : Nat)
    (response : Option QuoteResponse) :
    (∀ held, next.pc.reading = some held → event.reading = some held) ∧
      (∀ rate, next.pc.rate = some rate → pc.rate = some rate ∨
        (QuoteLabel.acted index caller event response).fetchedRate = some rate) ∧
      next.pc.Dated := by
  have nothing : ∀ {other : QuotePc}, other.reading = none ∧ other.rate = none ∧ other.Dated →
      (∀ held, other.reading = some held → event.reading = some held) ∧
      (∀ rate, other.rate = some rate → pc.rate = some rate ∨
        (QuoteLabel.acted index caller event response).fetchedRate = some rate) ∧
      other.Dated := by
    rintro other ⟨noReading, noRate, dated⟩
    rw [noReading, noRate]
    exact ⟨fun _ impossible => (by cases impossible),
      fun _ impossible => (by cases impossible), dated⟩
  cases acts with
  | slot granted => exact nothing (afterSlot_holds granted)
  | sampledReserve identity reading =>
      cases reading with
      | none => exact nothing ⟨rfl, rfl, trivial⟩
      | some now => exact ⟨fun _ held => held, fun _ impossible => (by cases impossible), trivial⟩
  | reserved replied ran => fun_cases afterReserve <;> exact nothing ⟨rfl, rfl, trivial⟩
  | contacted => exact nothing ⟨rfl, rfl, trivial⟩
  | fetched identity now evidence =>
      cases evidence with
      | none => exact nothing ⟨rfl, rfl, trivial⟩
      | some evidence =>
          exact ⟨fun _ impossible => (by cases impossible), fun _ isRate => .inr isRate, trivial⟩
  | sampledIssue identity now evidence reading =>
      fun_cases afterIssueSample with
      | case2 issuedAt stored issued =>
          have fields := issueQuote_fields issued
          exact ⟨fun _ held => held,
            fun rate isRate => .inl ((congrArg some fields.2.symm).trans isRate), fields.1⟩
      | _ => exact nothing ⟨rfl, rfl, trivial⟩
  | completed replied ran => fun_cases afterComplete <;> exact nothing ⟨rfl, rfl, trivial⟩
  | markedFailed => exact nothing ⟨rfl, rfl, trivial⟩
  | sampledRead identity reading =>
      cases reading with
      | none => exact nothing ⟨rfl, rfl, trivial⟩
      | some now => exact ⟨fun _ held => held, fun _ impossible => (by cases impossible), trivial⟩
  | read identity now => exact nothing (afterRead_holds _ _ _)
  | sampledBind stored intent reading =>
      cases reading with
      | none => exact nothing ⟨rfl, rfl, trivial⟩
      | some now => exact ⟨fun _ held => held, fun _ impossible => (by cases impossible), trivial⟩
  | bound replied ran => fun_cases afterBind <;> exact nothing ⟨rfl, rfl, trivial⟩
  | storeFailed fails => cases pc <;> cases fails <;> exact nothing ⟨rfl, rfl, trivial⟩
  | dropped => exact nothing ⟨rfl, rfl, trivial⟩

omit [QuoteJson] in
theorem MarksRate.mem {rate : XmrBtcRate} {before after : QuoteDb} {mark : RateWatermark}
    (marks : MarksRate rate before after) (member : mark ∈ after.xmrRateWatermarks.rows) :
    mark ∈ before.xmrRateWatermarks.rows ∨ mark = .ofRate rate := by
  cases marks with
  | agrees => exact .inl member
  | advances =>
      rw [Table.rows_update] at member
      rcases List.mem_map.mp member with ⟨old, isOld, rfl⟩
      unfold RateWatermark.advance
      split
      · exact .inr rfl
      · exact .inl isOld
  | begins absent fresh => exact (Table.mem_rows_insert fresh).mp member

theorem QuoteChanges.marks [SerdeJson] {before after : QuoteDb} {change : QuoteChange}
    {mark : RateWatermark} (changes : QuoteChanges before change after)
    (member : mark ∈ after.xmrRateWatermarks.rows) :
    mark ∈ before.xmrRateWatermarks.rows ∨
      ∃ quote, change.completion = some quote ∧ mark = .ofRate quote.rate := by
  cases changes with
  | @completes _ _ _ quote _ _ _ _ _ _ _ _ marks =>
      rw [settleQuoteRequest_xmrRateWatermarks] at member
      cases marks.mem member with
      | inl old => exact .inl old
      | inr isMark => exact .inr ⟨quote, rfl, isMark⟩
  | _ => exact .inl member

theorem QuoteActs.marks [SerdeJson] (acts : QuoteActs caller pc db event next after)
    (sound : pc.Sound caller) {mark : RateWatermark}
    (member : mark ∈ after.xmrRateWatermarks.rows) :
    mark ∈ db.xmrRateWatermarks.rows ∨ ∃ rate, pc.rate = some rate ∧ mark = .ofRate rate := by
  cases (acts.changes sound).marks member with
  | inl old => exact .inl old
  | inr isNew =>
      rcases isNew with ⟨quote, isCompletion, isMark⟩
      refine .inr ⟨quote.rate, ?_, isMark⟩
      cases acts with
      | @completed _ _ _ _ _ result =>
          cases result with
          | error error => cases isCompletion
          | ok done =>
              cases isCompletion
              rfl
      | @reserved _ _ _ _ result =>
          cases result with
          | error error => cases isCompletion
          | ok answer => cases answer <;> cases isCompletion
      | @bound _ _ _ _ _ result => cases result <;> cases isCompletion
      | _ => cases isCompletion

end Holding

/-! ## Runs -/

section Runs

variable [QuoteJson] [SerdeJson] {past labels : List QuoteLabel} {before after : QuoteSystem}
  {label : QuoteLabel}

structure CallsRead (past : List QuoteLabel) (system : QuoteSystem) : Prop where
  read : ∀ (index : Nat) (call : QuoteCall) (held : Int), system.calls[index]? = some call →
    call.pc.reading = some held → held ∈ readings past
  priced : ∀ (index : Nat) (call : QuoteCall) (rate : XmrBtcRate),
    system.calls[index]? = some call → call.pc.rate = some rate → rate ∈ fetchedRates past
  dated : ∀ (index : Nat) (call : QuoteCall), system.calls[index]? = some call → call.pc.Dated
  marked : ∀ mark ∈ system.db.xmrRateWatermarks.rows,
    ∃ rate ∈ fetchedRates past, mark = .ofRate rate

omit [SerdeJson] in
theorem mem_fetchedRates_concat {rate : XmrBtcRate} :
    rate ∈ fetchedRates (past ++ [label]) ↔
      rate ∈ fetchedRates past ∨ label.fetchedRate = some rate := by
  rw [fetchedRates, List.filterMap_append, List.mem_append]
  refine or_congr_right ?_
  rw [List.mem_filterMap]
  simp

omit [SerdeJson] in
theorem mem_readings_concat {reading : Int} (isReading : label.reading = some reading) :
    reading ∈ readings (past ++ [label]) := by
  rw [readings, List.filterMap_append]
  exact List.mem_append_right _ (List.mem_filterMap.mpr ⟨label, List.mem_cons_self, isReading⟩)

theorem CallsRead.of_step (callsRead : CallsRead past before) (sound : CallsSound before)
    (step : QuoteStep before label after) : CallsRead (past ++ [label]) after := by
  have old : ∀ {rate}, rate ∈ fetchedRates past → rate ∈ fetchedRates (past ++ [label]) :=
    fun member => mem_fetchedRates_concat.mpr (.inl member)
  cases step with
  | receives caller =>
      constructor
      · intro index call held found isReading
        rcases call_of_receive found with ⟨_, rfl⟩ | isOld
        · cases isReading
        · exact mem_readings_append (callsRead.read index call held isOld isReading)
      · intro index call rate found isRate
        rcases call_of_receive found with ⟨_, rfl⟩ | isOld
        · cases isRate
        · exact old (callsRead.priced index call rate isOld isRate)
      · intro index call found
        rcases call_of_receive found with ⟨_, rfl⟩ | isOld
        · trivial
        · exact callsRead.dated index call isOld
      · intro mark member
        rcases callsRead.marked mark member with ⟨rate, isRate, isMark⟩
        exact ⟨rate, old isRate, isMark⟩
  | ledger =>
      constructor
      · exact fun index call held found isReading =>
          mem_readings_append (callsRead.read index call held found isReading)
      · exact fun index call rate found isRate => old (callsRead.priced index call rate found isRate)
      · exact callsRead.dated
      · intro mark member
        rcases callsRead.marked mark member with ⟨rate, isRate, isMark⟩
        exact ⟨rate, old isRate, isMark⟩
  | @acts index call event next db running acts =>
      have holds := acts.holds index next.response
      constructor
      · intro other moved held found isReading
        rcases call_of_advance found with ⟨_, rfl⟩ | ⟨_, isOld⟩
        · exact mem_readings_concat (holds.1 held isReading)
        · exact mem_readings_append (callsRead.read other moved held isOld isReading)
      · intro other moved rate found isRate
        rcases call_of_advance found with ⟨_, rfl⟩ | ⟨_, isOld⟩
        · cases holds.2.1 rate isRate with
          | inl heldBefore => exact old (callsRead.priced index call rate running heldBefore)
          | inr isFetched => exact mem_fetchedRates_concat.mpr (.inr isFetched)
        · exact old (callsRead.priced other moved rate isOld isRate)
      · intro other moved found
        rcases call_of_advance found with ⟨_, rfl⟩ | ⟨_, isOld⟩
        · exact holds.2.2
        · exact callsRead.dated other moved isOld
      · intro mark member
        rcases acts.marks (sound index call running) member with isOld | ⟨rate, isRate, isMark⟩
        · rcases callsRead.marked mark isOld with ⟨rate, isRate, isMark⟩
          exact ⟨rate, old isRate, isMark⟩
        · exact ⟨rate, old (callsRead.priced index call rate running isRate), isMark⟩

theorem CallsRead.of_run {system : QuoteSystem} (run : QuoteRun .initial labels system) :
    CallsRead labels system := by
  have start : CallsRead [] .initial ∧ CallsSound .initial := by
    refine ⟨?_, .ofInitial⟩
    constructor <;> simp [QuoteSystem.initial, QuoteDb.fresh]
  exact (@Execution.Run.history _ _ QuoteStep _ _ _
    (fun past system => CallsRead past system ∧ CallsSound system)
    (fun both step => ⟨both.1.of_step both.2 step, both.2.of_step step⟩) run [] start).1

theorem acted_at {earlier later : List QuoteLabel} {index : Nat} {caller : QuoteCaller}
    {event : QuoteEvent} {response : Option QuoteResponse} {system : QuoteSystem}
    (run : QuoteRun .initial (earlier ++ .acted index caller event response :: later) system) :
    ∃ source target pc next, QuoteRun .initial earlier source ∧
      source.calls[index]? = some ⟨caller, pc⟩ ∧
      QuoteActs caller pc source.db event next target := by
  rcases run.at_split with ⟨source, target, before, step, _⟩
  generalize isLabel : QuoteLabel.acted index caller event response = label at step
  cases step with
  | @acts _ call _ next db running acts =>
      cases isLabel
      exact ⟨source, db, call.pc, next, before, running, acts⟩
  | _ => cases isLabel

/-- The durable clock is not behind a reading if nothing later was committed. -/
theorem ticks_of_order {system : QuoteSystem} (run : QuoteRun .initial past system) {held : Int}
    (nonneg : 0 ≤ held)
    (inOrder : ∀ other ∈ past, ∀ time, other.commits = some time → time ≤ held) :
    Ticks held system.db := by
  refine ⟨?_, nonneg⟩
  cases clock_committed (QuoteRun.history run) with
  | inl start =>
      rw [start]
      exact nonneg
  | inr committed =>
      rcases committed with ⟨change, isChange, isTime⟩
      rcases List.mem_map.mp isChange with ⟨other, isOther, rfl⟩
      exact inOrder other isOther _ isTime

section Statements

variable {caller : QuoteCaller} {pc : QuotePc} {db next_db : QuoteDb} {event : QuoteEvent}
  {next : QuoteNext}

omit [SerdeJson] in
theorem QuoteActs.uses_reading (acts : QuoteActs caller pc db event next next_db) {held : Int}
    (uses : event.uses = some held) : pc.reading = some held := by
  cases acts <;> first | exact uses | cases uses

omit [SerdeJson] in
/-- In order, no statement is refused by the clock. -/
theorem QuoteActs.avoids (acts : QuoteActs caller pc db event next next_db)
    (sound : pc.Sound caller) (clocked : RowsClocked db)
    (ticks : ∀ held, event.uses = some held → Ticks held db)
    (requested : ∀ held result, event = .read held result → ∀ row ∈ db.xmrQuoteRequests.rows,
      row.id = caller.request.id → caller.Identifies row.identityJson → row.requestedAt ≤ held)
    {error : QuoteError} (refused : event.refusal = some error) : ¬ ClockError error := by
  cases acts with
  | reserved replied ran =>
      rcases commit_cases ran with ⟨_, rfl, _⟩ | ⟨_, rfl, failed, _⟩
      · cases refused
      · cases refused
        exact reserveXmrQuote_avoids (ticks _ rfl) clocked _ failed
  | completed replied ran =>
      rcases commit_cases ran with ⟨_, rfl, _⟩ | ⟨_, rfl, failed, _⟩
      · cases refused
      · cases refused
        exact completeXmrQuote_avoids (ticks _ rfl) _ (withUnit_eq_error.mp failed)
  | bound replied ran =>
      rcases commit_cases ran with ⟨_, rfl, _⟩ | ⟨_, rfl, failed, _⟩
      · cases refused
      · cases refused
        exact bindXmrQuote_avoids (ticks _ rfl) _ (withUnit_eq_error.mp failed)
  | read identity now =>
      cases isRead : readXmrQuote caller.request.id identity now db with
      | ok documentJson =>
          rw [isRead] at refused
          cases refused
      | error reason =>
          rw [isRead] at refused
          cases refused
          refine readXmrQuote_avoids (fun row member sameId sameIdentity => ?_) _ isRead
          exact requested now _ rfl row member sameId (sameIdentity ▸ sound.2)
  | _ => cases refused

omit [SerdeJson] in
/-- Out of order, the clock refuses a transaction. -/
theorem QuoteActs.refused_behind (acts : QuoteActs caller pc db event next next_db) {held : Int}
    (uses : event.uses = some held) (behind : held < db.xmrQuoteClock) :
    event.refusal = some .clockReconciliation := by
  have checked := checkClock_behind behind
  cases acts with
  | reserved replied ran =>
      cases uses
      rw [reserveXmrQuote, checked] at ran
      cases ran
      rfl
  | completed replied ran =>
      cases uses
      rw [completeXmrQuote, checked] at ran
      cases ran
      rfl
  | bound replied ran =>
      cases uses
      rw [bindXmrQuote, checked] at ran
      cases ran
      rfl
  | _ => cases uses

omit [QuoteJson] [SerdeJson] in
theorem QuoteCaller.Identifies.unique {identity other : String} (left : caller.Identifies identity)
    (right : caller.Identifies other) : identity = other := by
  rcases left with ⟨value, isIdentity, rfl⟩
  rcases right with ⟨_, isOther, rfl⟩
  rw [Except.ok.inj (isIdentity.symm.trans isOther)]

omit [SerdeJson] in
theorem QuoteActs.lookup_refused (acts : QuoteActs caller pc db event next next_db)
    (sound : pc.Sound caller) {held : Int} {result : Except QuoteError String}
    (isRead : event = .read held result) {row : QuoteRequestRow}
    (member : row ∈ db.xmrQuoteRequests.rows) (sameId : row.id = caller.request.id)
    (identifies : caller.Identifies row.identityJson) (behind : held < row.requestedAt) :
    event.refusal = some .clockRegressed := by
  cases acts with
  | read identity now =>
      cases isRead
      have found : findQuoteRequest caller.request.id db = some row :=
        findQuoteRequest_eq_some.mpr ⟨member, sameId⟩
      have sameIdentity : row.identityJson = identity := identifies.unique sound.2
      have refused : readXmrQuote caller.request.id identity held db = .error .clockRegressed := by
        rw [readXmrQuote, found]
        change storedResult row identity held = _
        rw [storedResult, if_neg (not_not.mpr sameIdentity), if_pos behind]
      rw [refused]
      rfl
  | _ => cases isRead

end Statements

/-! ## In order and sound -/

section Order

variable {earlier later : List QuoteLabel} {index : Nat} {caller : QuoteCaller}
  {system source : QuoteSystem} {db : QuoteDb} {pc : QuotePc} {next : QuoteNext}

theorem completed_of_order {stored : StoredXmrQuote} {now : Int} {replied : Bool}
    {result : Except QuoteError Unit} (before : QuoteRun .initial earlier source)
    (running : source.calls[index]? = some ⟨caller, pc⟩)
    (acts : QuoteActs caller pc source.db (.completed stored now replied result) next db)
    (ticks : Ticks now source.db) (steady : SteadySource earlier) {identity : String} {start : Int}
    (reserved : .acted index caller (.reserved identity start true (.ok none)) none ∈ earlier)
    (inTime : now < start + reservationSeconds) : result = .ok () := by
  have owners := Owners.of_run before
  have callsRead := CallsRead.of_run before
  have sound := owners.sound index _ running
  generalize isEvent : QuoteEvent.completed stored now replied result = event at acts
  cases acts <;> cases isEvent
  rename_i heldIdentity ran
  rcases owners.held index _ heldIdentity running rfl with
    ⟨row, member, sameId, isReserved, sameIdentity⟩
  rcases (RowsAdded.of_history (QuoteRun.history before)).2 _ (List.mem_map_of_mem reserved) _ rfl
    with ⟨status, isAdded⟩
  have sameRow := source.db.xmrQuoteRequests.row_eq_of_key member isAdded sameId
  have isEnd : row.reservationUntil = start + reservationSeconds := by
    rw [sameRow]
    rfl
  have identifies : caller.Identifies stored.identityJson := sound.2.2 ▸ sound.2.1
  have marks : ∃ marked, markRate stored.quote.rate (source.db.tick now) = .ok marked := by
    apply markRate_accepts.mpr
    apply @acceptsRate_of stored.quote.rate (source.db.tick now)
    intro mark isMark sameSource
    rcases callsRead.marked mark isMark with ⟨rate, isRate, rfl⟩
    have isFetched := callsRead.priced index _ stored.rate running rfl
    have sameRate := steady rate isRate stored.rate isFetched sameSource
    exact ⟨rate, rfl, Int.le_of_eq (congrArg XmrBtcRate.observedAt sameRate), fun _ => by
      rw [sameRate]
      rfl⟩
  rcases marks with ⟨marked, marks⟩
  have completes := completeXmrQuote_of ticks member (sameId.trans identifies.id_eq.symm) isReserved
    (sameIdentity.trans sound.2.2.symm) (isEnd ▸ inTime) (callsRead.dated index _ running) marks
  rw [identifies.id_eq, sound.2.2] at completes
  rw [completes] at ran
  cases ran
  rfl

/-- The clock refuses no call, and lets every reservation be completed in its time,
exactly if the calls use their readings in order. -/
theorem quote_clock_refuses_only_overtaken {labels : List QuoteLabel}
    (run : QuoteRun .initial labels system) (nonneg : ∀ reading ∈ readings labels, 0 ≤ reading)
    (steady : SteadySource labels) : ClockSound labels ↔ InReadingOrder labels := by
  constructor
  · intro clockSound earlier index caller event response later parts
    subst parts
    rcases acted_at run with ⟨source, target, pc, next, before, running, acts⟩
    have member : QuoteLabel.acted index caller event response ∈
        earlier ++ .acted index caller event response :: later :=
      List.mem_append_right _ List.mem_cons_self
    have refusesNone := clockSound.refusesNone index caller event response member
    constructor
    · intro held uses other isOther time isTime
      by_contra late
      have committed := committed_le (QuoteRun.history before) (List.mem_map_of_mem isOther) isTime
      have refused := acts.refused_behind uses (by omega)
      exact refusesNone _ refused (.inl rfl)
    · intro held result isRead other isOther row isAdded sameId identifies
      by_contra late
      rcases (RowsAdded.of_history (QuoteRun.history before)).2 _ (List.mem_map_of_mem isOther) row
        isAdded with ⟨status, isRow⟩
      have sound := CallsSound.ofInitial.of_run before _ _ running
      have refused := acts.lookup_refused sound isRead isRow sameId identifies (Int.not_le.mp late)
      exact refusesNone _ refused (.inr rfl)
  · intro inOrder
    have ticks : ∀ {earlier later index caller event response source pc next target},
        labels = earlier ++ .acted index caller event response :: later →
        QuoteRun .initial earlier source → source.calls[index]? = some ⟨caller, pc⟩ →
        QuoteActs caller pc source.db event next target →
        ∀ held, event.uses = some held → Ticks held source.db := by
      intro earlier later index caller event response source pc next target parts before running
        acts held uses
      have isRead := (CallsRead.of_run before).read index _ held running (acts.uses_reading uses)
      apply ticks_of_order before
      · apply nonneg
        rw [parts]
        exact mem_readings_append isRead
      · exact (inOrder earlier index caller event response later parts).1 held uses
    constructor
    · intro index caller event response member error refused
      rcases List.append_of_mem member with ⟨earlier, later, parts⟩
      have whole := run
      rw [parts] at whole
      rcases acted_at whole with ⟨source, target, pc, next, before, running, acts⟩
      refine acts.avoids (CallsSound.ofInitial.of_run before _ _ running)
        (RowsClocked.ofFresh.of_history (QuoteRun.history before))
        (ticks parts before running acts) ?_ refused
      intro held result isRead row isRow sameId identifies
      rcases (RowsAdded.of_history (QuoteRun.history before)).1 row isRow with
        ⟨change, isChange, added, isAdded, sameRow⟩
      rcases List.mem_map.mp isChange with ⟨other, isOther, rfl⟩
      rw [← sameRow] at sameId identifies ⊢
      exact (inOrder earlier index caller event response later parts).2 held result isRead other
        isOther added isAdded sameId identifies
    · intro earlier index caller stored now replied result response later parts identity start
        reserved inTime
      have whole := run
      rw [parts] at whole
      rcases acted_at whole with ⟨source, target, pc, next, before, running, acts⟩
      apply completed_of_order before running acts (ticks parts before running acts now rfl) _
        reserved inTime
      intro left isLeft right isRight
      apply steady
      · rw [parts, fetchedRates, List.filterMap_append]
        exact List.mem_append_left _ isLeft
      · rw [parts, fetchedRates, List.filterMap_append]
        exact List.mem_append_left _ isRight
    · intro earlier index caller replied response later parts
      have whole := run
      rw [parts] at whole
      rcases acted_at whole with ⟨source, target, pc, next, before, running, acts⟩
      have owners := Owners.of_run before
      generalize isEvent : QuoteEvent.markedFailed replied = event at acts
      cases acts <;> cases isEvent
      exact owners.reservedBy index _ running rfl

end Order

end Runs

/-! ## Calls in the order of their readings -/

section Sorted

variable [QuoteJson] {labels : List QuoteLabel} {label : QuoteLabel}

/-- The reading that a statement compares with what was committed before it. -/
def QuoteLabel.used : QuoteLabel → Option Int
  | acted _ _ (.read now _) _ => some now
  | acted _ _ event _ => event.uses
  | _ => none

theorem QuoteLabel.used_of_commits {time : Int} (commits : label.commits = some time) :
    label.used = some time := by
  cases label with
  | acted _ caller event _ =>
      revert commits
      simp only [QuoteLabel.commits, QuoteLabel.change]
      fun_cases QuoteEvent.change <;> intro commits <;> cases commits
      all_goals rfl
  | _ => cases commits

theorem QuoteLabel.used_of_added {row : QuoteRequestRow}
    (isAdded : label.change.added = some row) : label.used = some row.requestedAt := by
  cases label with
  | acted _ caller event _ =>
      revert isAdded
      simp only [QuoteLabel.change]
      fun_cases QuoteEvent.change <;> intro isAdded <;> cases isAdded
      rfl
  | _ => cases isAdded

/-- Calls that use their readings in the order of the readings overtake nobody. -/
theorem inReadingOrder_of_sorted (sorted : (labels.filterMap QuoteLabel.used).Pairwise (· ≤ ·)) :
    InReadingOrder labels := by
  intro earlier index caller event response later parts
  rw [parts, List.pairwise_filterMap, List.pairwise_append] at sorted
  have ordered : ∀ other ∈ earlier, ∀ time, other.used = some time → ∀ held,
      (QuoteLabel.acted index caller event response).used = some held → time ≤ held :=
    fun other isOther => sorted.2.2 other isOther _ List.mem_cons_self
  constructor
  · intro held uses other isOther time commits
    apply ordered other isOther time (QuoteLabel.used_of_commits commits) held
    cases event <;> first | exact uses | cases uses
  · rintro held result rfl other isOther row isAdded _ _
    exact ordered other isOther row.requestedAt (QuoteLabel.used_of_added isAdded) held rfl

end Sorted

theorem second_reservable {db : QuoteDb} (only : db.xmrQuoteRequests.rows =
      [reservation (exampleRequest ⟨7⟩ 'a') (exampleIdentityJson ⟨7⟩ 'a') 1000])
    (clock : db.xmrQuoteClock = 1000) : Reservable (exampleCreator ⟨8⟩ 'b') 1001 db := by
  apply example_reservable ⟨by rw [clock]; decide, by decide⟩ (by decide)
  · rw [only]
    exact Nat.le_add_right 1 1
  · intro row member
    rw [only] at member
    rw [List.mem_singleton.mp member]
    exact ⟨by decide, fun same => absurd (@exampleBucket_inj ⟨7⟩ _ _ _ same) (by decide)⟩

def laterEvidence : RateEvidence :=
  { exampleEvidence with fetchedAt := 1001, chronological := by decide }

/-- Two clients have their requests under way at once, and nobody is overtaken. -/
theorem quote_clock_refuses_only_overtaken_example :
    letI := exampleQuoteJson
    letI := exampleJson
    ∃ labels system, QuoteRun .initial labels system ∧
      (completions labels).map StoredXmrQuote.id = [⟨8⟩, ⟨7⟩] ∧
      labels.filterMap QuoteLabel.used = [1000, 1001, 1002, 1003] ∧ ClockSound labels := by
  let := exampleQuoteJson
  let := exampleJson
  let first := exampleCreator ⟨7⟩ 'a'
  let second := exampleCreator ⟨8⟩ 'b'
  have reservable : Reservable first 1000 .fresh := example_reservable ⟨by decide, by decide⟩
    (by decide) (by simp [QuoteDb.fresh]) (by simp [QuoteDb.fresh])
  rcases @reserving_run _ _ .fresh [] first _ 1000 rfl exampleIdentity_new.1 reservable with
    ⟨fresh, reserves⟩
  let held := reservation first.request (exampleIdentityJson ⟨7⟩ 'a') 1000
  let one : QuoteDb := { QuoteDb.fresh with
    xmrQuoteClock := 1000
    xmrQuoteRequests := QuoteDb.fresh.xmrQuoteRequests.insert held fresh }
  rcases @reserving_run _ _ one [⟨first, .contact (exampleIdentityJson ⟨7⟩ 'a') 1000⟩] second _
    1001 rfl exampleIdentity_new.2.1 (second_reservable rfl rfl) with ⟨freshAgain, reservesAgain⟩
  let heldAgain := reservation second.request (exampleIdentityJson ⟨8⟩ 'b') 1001
  let two : QuoteDb := { one with
    xmrQuoteClock := 1001
    xmrQuoteRequests := one.xmrQuoteRequests.insert heldAgain freshAgain }
  let calls : List QuoteCall := [⟨first, .contact (exampleIdentityJson ⟨7⟩ 'a') 1000⟩,
    ⟨second, .contact (exampleIdentityJson ⟨8⟩ 'b') 1001⟩]
  have laterPrice : (examplePricing 1001 1002 laterEvidence).isSome = true := by decide +kernel
  have lastPrice : (examplePricing 1000 1003 laterEvidence).isSome = true := by decide +kernel
  have inBounds : examplePolicy.minTargetSats ≤ 1000 ∧ 1000 ≤ examplePolicy.maxTargetSats := by
    decide
  rcases @answering_run _ _ two calls second _ 1 1001 1002 laterEvidence _ heldAgain rfl
    exampleIdentity_new.2.1 inBounds (priceQuote_of_pricing laterPrice)
    ⟨by change (1001 : Int) ≤ 1002; decide, by decide⟩ (Table.mem_rows_insert_new freshAgain) rfl rfl
    rfl (by decide) (by simp [AcceptsRate, two, one, QuoteDb.fresh]) with
    ⟨stored, marked, marks, answers, sameId, _, isPriced, _⟩
  have isMarked := markRate_cases marks
  let three := settleQuoteRequest stored.id (.ready stored.documentJson) marked
  have clock : three.xmrQuoteClock = 1002 := by
    rw [settleQuoteRequest_xmrQuoteClock, isMarked.clock_eq]
    rfl
  have stillHeld : held ∈ three.xmrQuoteRequests.rows := by
    have other : held.id ≠ stored.id := by
      rw [sameId]
      decide
    rw [rows_settleQuoteRequest, isMarked.rows_eq,
      ← @QuoteRequestRow.settle_of_other stored.id (.ready stored.documentJson) held other]
    exact List.mem_map_of_mem (Table.mem_rows_insert_old freshAgain List.mem_cons_self)
  have accepts : AcceptsRate laterEvidence.rate three := by
    have mark : three.xmrRateWatermarks.rows = [.ofRate stored.quote.rate] := isMarked.first rfl
    apply acceptsRate_of
    intro known isKnown _
    rw [mark, isPriced, (priceQuote_fields (priceQuote_of_pricing laterPrice)).1,
      List.mem_singleton] at isKnown
    exact ⟨laterEvidence.rate, isKnown, Int.le_refl _, fun _ => rfl⟩
  let waiting : List QuoteCall := [⟨first, .contact (exampleIdentityJson ⟨7⟩ 'a') 1000⟩,
    ⟨second, .done⟩]
  rcases @answering_run _ exampleJson three waiting first _ 0 1000 1003 laterEvidence _ held rfl
    exampleIdentity_new.1 inBounds (priceQuote_of_pricing lastPrice)
    ⟨by rw [clock]; decide, by decide⟩ stillHeld rfl rfl rfl (by decide) accepts with
    ⟨last, markedLast, _, answersLast, lastId, _⟩
  have run : QuoteRun .initial _ _ :=
    reserves.append (reservesAgain.append (answers.append answersLast))
  have sorted : ([1000, 1001, 1002, 1003] : List Int).Pairwise (· ≤ ·) := by decide
  have nonneg : ∀ reading ∈ ([1000, 1001, 1002, 1003] : List Int), 0 ≤ reading := by decide
  refine ⟨_, _, run, ?_, rfl, (@quote_clock_refuses_only_overtaken exampleQuoteJson exampleJson _ _
    run nonneg ?_).mpr (inReadingOrder_of_sorted sorted)⟩
  · exact congr (congrArg List.cons sameId) (congrArg (List.cons · []) lastId)
  · intro left isLeft right isRight _
    have leftRate : left ∈ [laterEvidence.rate, laterEvidence.rate] := isLeft
    have rightRate : right ∈ [laterEvidence.rate, laterEvidence.rate] := isRight
    simp only [List.mem_cons, List.not_mem_nil, or_false, or_self] at leftRate rightRate
    rw [leftRate, rightRate]

/-! ## A call that is overtaken -/

/-- One call reads the clock at 1000 for its completion. Another one reads it at 1001 and
makes its reservation. The first call is then told that the clock went back, and its
request has failed. -/
theorem quote_clock_overtaken :
    letI := exampleQuoteJson
    letI := exampleJson
    ∃ labels system, QuoteRun .initial labels system ∧
      (readings labels).Pairwise (· ≤ ·) ∧ SteadySource labels ∧
      .acted 0 (exampleCreator ⟨7⟩ 'a') (.markedFailed true)
        (some (.error .clockReconciliation)) ∈ labels ∧
      (∃ row ∈ system.db.xmrQuoteRequests.rows, row.id = ⟨7⟩ ∧ row.status = .failed ∧
        row.reservationUntil = 1030) ∧ ¬ ClockSound labels := by
  let := exampleQuoteJson
  let := exampleJson
  rcases exampleRun_prices with ⟨stored, fresh, pricing, _⟩
  let identity := exampleIdentityJson ⟨7⟩ 'a'
  let held := reservation (exampleRequest ⟨7⟩ 'a') identity 1000
  let db : QuoteDb := { QuoteDb.fresh with
    xmrQuoteClock := 1000
    xmrQuoteRequests := QuoteDb.fresh.xmrQuoteRequests.insert held fresh }
  have behind : (1000 : Int) < 1001 := by decide
  have only : db.xmrQuoteRequests.rows = [held] := rfl
  rcases @reserving_run _ _ db [⟨exampleCreator ⟨7⟩ 'a', .complete identity stored 1000⟩]
    (exampleCreator ⟨8⟩ 'b') _ 1001 rfl exampleIdentity_new.2.1 (second_reservable only rfl) with
    ⟨otherFresh, reserving⟩
  let overtaking := exampleIdentityJson ⟨8⟩ 'b'
  let overtaken : QuoteDb := { db with
    xmrQuoteClock := 1001
    xmrQuoteRequests := db.xmrQuoteRequests.insert
      (reservation (exampleRequest ⟨8⟩ 'b') overtaking 1001) otherFresh }
  have refused : completeXmrQuote ⟨7⟩ identity stored 1000 overtaken =
      .error .clockReconciliation := by
    rw [completeXmrQuote, @checkClock_behind 1000 overtaken behind]
    rfl
  let calls (pc : QuotePc) : List QuoteCall :=
    [⟨exampleCreator ⟨7⟩ 'a', pc⟩, ⟨exampleCreator ⟨8⟩ 'b', .contact overtaking 1001⟩]
  have completes := @step_at _ _ (calls (.complete identity stored 1000))
    (exampleCreator ⟨7⟩ 'a') _ _ _ _ _ 0 rfl
    (.completed true (commit_of_error (withUnit_eq_error.mpr refused)))
  have fails := @step_at _ exampleJson (calls (.markFailed .clockReconciliation))
    (exampleCreator ⟨7⟩ 'a') _ _ _ _ _ 0 rfl (.markedFailed .clockReconciliation true overtaken)
  have rest : QuoteRun _ _ _ := .cons completes (.single fails)
  have run := (pricing.append reserving).append rest
  have inOrder : ([1000, 1000, 1001] : List Int).Pairwise (· ≤ ·) := by decide
  refine ⟨_, _, run, inOrder, ?_, ?_, ?_, ?_⟩
  · intro left isLeft right isRight _
    have leftRate : left ∈ [exampleEvidence.rate] := isLeft
    have rightRate : right ∈ [exampleEvidence.rate] := isRight
    rw [List.mem_singleton.mp leftRate, List.mem_singleton.mp rightRate]
  · exact List.mem_append_right _ (List.mem_cons_of_mem _ List.mem_cons_self)
  · refine ⟨held.settle ⟨7⟩ .failed, ?_, rfl, rfl, rfl⟩
    have member : held ∈ overtaken.xmrQuoteRequests.rows :=
      Table.mem_rows_insert_old otherFresh (Table.mem_rows_insert_new fresh)
    have failed : held.settle ⟨7⟩ .failed ∈
        (settleQuoteRequest ⟨7⟩ .failed overtaken).xmrQuoteRequests.rows := by
      rw [rows_settleQuoteRequest]
      exact List.mem_map_of_mem member
    exact failed
  · intro clockSound
    apply clockSound.refusesNone 0 (exampleCreator ⟨7⟩ 'a')
      (.completed stored 1000 true (.error .clockReconciliation)) none _ _ rfl (.inl rfl)
    exact List.mem_append_right _ List.mem_cons_self

end LightningGoats
