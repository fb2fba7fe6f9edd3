import LightningGoats.Quotes.Issuing
import LightningGoats.Quotes.Requests

/-! # Undisturbed calls

What a call does if nothing disturbs it between two of its statements. The other
calls of the system stay where they are.
-/

namespace LightningGoats

open Outcome Relational Text

/-! ## Steps -/

section Steps

variable [QuoteJson] [SerdeJson] {calls : List QuoteCall} {caller : QuoteCaller} {pc : QuotePc}
  {db after : QuoteDb} {event : QuoteEvent} {next : QuoteNext} {index : Nat}

theorem step_at (running : calls[index]? = some ⟨caller, pc⟩)
    (acts : QuoteActs caller pc db event next after) :
    QuoteStep ⟨db, calls⟩ (.acted index caller event next.response)
      ⟨after, calls.set index ⟨caller, next.pc⟩⟩ := by
  have step : QuoteStep ⟨db, calls⟩ _ _ := .acts running acts
  exact step

theorem step_last (acts : QuoteActs caller pc db event next after) :
    QuoteStep ⟨db, calls ++ [⟨caller, pc⟩]⟩ (.acted calls.length caller event next.response)
      ⟨after, calls ++ [⟨caller, next.pc⟩]⟩ := by
  have running : (calls ++ [⟨caller, pc⟩])[calls.length]? = some ⟨caller, pc⟩ := by simp
  have step := step_at running acts
  rw [List.set_append_right _ _ (Nat.le_refl _), Nat.sub_self] at step
  exact step

omit [SerdeJson] in
theorem running_set {call moved : QuoteCall} (running : calls[index]? = some call) :
    (calls.set index moved)[index]? = some moved :=
  List.getElem?_set_self (List.getElem?_eq_some_iff.mp running).choose

end Steps

/-! ## The first transaction -/

section Calls

variable [QuoteJson]

def beginLabels (index : Nat) (caller : QuoteCaller) (now : Int) : List QuoteLabel :=
  [.received caller, .acted index caller (.slot true) none,
    .acted index caller (.sampled (some now)) none]

variable [SerdeJson] {db after : QuoteDb} {calls : List QuoteCall} {caller : QuoteCaller}
  {value : Identity}

theorem create_begins (isCreate : caller.operation = .create)
    (isIdentity : Identity.new caller.request caller.service.context = .ok value) (now : Int) :
    QuoteRun ⟨db, calls⟩ (beginLabels calls.length caller now)
      ⟨db, calls ++ [⟨caller, .reserve (identityCodec.encode value) now⟩]⟩ := by
  have slotted : afterSlot caller true = .goto (.sampleReserve (identityCodec.encode value)) := by
    simp only [afterSlot, isIdentity, isCreate, if_pos]
  have slot : QuoteStep ⟨db, calls ++ [⟨caller, .begin⟩]⟩ _ _ := step_last (.slot true db)
  rw [slotted] at slot
  refine .cons (.receives ⟨db, calls⟩ caller) (.cons slot (.single ?_))
  exact step_last (.sampledReserve _ (some now) db)

theorem lookup_begins (notCreate : caller.operation ≠ .create)
    (isIdentity : Identity.new caller.request caller.service.context = .ok value) (now : Int) :
    QuoteRun ⟨db, calls⟩ (beginLabels calls.length caller now)
      ⟨db, calls ++ [⟨caller, .read (identityCodec.encode value) now⟩]⟩ := by
  have slotted : afterSlot caller true = .goto (.sampleRead (identityCodec.encode value)) := by
    cases isOperation : caller.operation with
    | create => exact absurd isOperation notCreate
    | _ => simp only [afterSlot, isIdentity, isOperation, if_pos]
  have slot : QuoteStep ⟨db, calls ++ [⟨caller, .begin⟩]⟩ _ _ := step_last (.slot true db)
  rw [slotted] at slot
  refine .cons (.receives ⟨db, calls⟩ caller) (.cons slot (.single ?_))
  exact step_last (.sampledRead _ (some now) db)

def answeredLabels (index : Nat) (caller : QuoteCaller) (now : Int) (event : QuoteEvent)
    (response : QuoteResponse) : List QuoteLabel :=
  beginLabels index caller now ++ [.acted index caller event (some response)]

theorem refused_run {now : Int} {error : QuoteError} (isCreate : caller.operation = .create)
    (isIdentity : Identity.new caller.request caller.service.context = .ok value)
    (refused : reserveXmrQuote caller.request (identityCodec.encode value) caller.service.policy
      now db = .error error) :
    QuoteRun ⟨db, calls⟩
      (answeredLabels calls.length caller now
        (.reserved (identityCodec.encode value) now true (.error error)) (.error error))
      ⟨db, calls ++ [⟨caller, .done⟩]⟩ := by
  apply (create_begins isCreate isIdentity now).append
  exact .single (step_last (.reserved true (commit_of_error refused)))

theorem replayed_run {row : QuoteRequestRow} {quote : StoredXmrQuote} {now : Int}
    (isCreate : caller.operation = .create)
    (isIdentity : Identity.new caller.request caller.service.context = .ok value)
    (ticks : Ticks now db) (member : row ∈ db.xmrQuoteRequests.rows) (holds : RowHolds row quote)
    (sameId : quote.id = caller.request.id)
    (sameIdentity : quote.identityJson = identityCodec.encode value)
    (requested : row.requestedAt ≤ now) :
    QuoteRun ⟨db, calls⟩
      (answeredLabels calls.length caller now
        (.reserved (identityCodec.encode value) now true (.ok (some quote.documentJson)))
        (.ok (.quote quote)))
      ⟨db.tick now, calls ++ [⟨caller, .done⟩]⟩ := by
  have found : findQuoteRequest caller.request.id (db.tick now) = some row :=
    findQuoteRequest_eq_some.mpr ⟨member, holds.1.trans sameId⟩
  have isStored : storedResult row (identityCodec.encode value) now = .ok quote.documentJson :=
    storedResult_eq_ok.mpr ⟨holds.2.1.trans sameIdentity, requested, holds.2.2⟩
  have reserved : reserveXmrQuote caller.request (identityCodec.encode value)
      caller.service.policy now db = .ok (some quote.documentJson, db.tick now) := by
    refine bind_eq_ok.mpr ⟨_, checkClock_of ticks, ?_⟩
    rw [found]
    exact bind_eq_ok.mpr ⟨_, isStored, rfl⟩
  have decoded : StoredXmrQuote.decode quote.documentJson (identityCodec.encode value) =
      .ok quote := StoredXmrQuote.decode_eq_ok.mpr ⟨rfl, sameIdentity⟩
  have replays := @step_last _ _ calls caller _ _ _ _ _ (.reserved true (commit_of_ok reserved))
  simp only [afterReserve, decoded, Except.map, if_pos] at replays
  exact (create_begins isCreate isIdentity now).append (.single replays)

theorem unread_run {now : Int} {error : QuoteError} (notCreate : caller.operation ≠ .create)
    (isIdentity : Identity.new caller.request caller.service.context = .ok value)
    (refused : readXmrQuote caller.request.id (identityCodec.encode value) now db =
      .error error) :
    QuoteRun ⟨db, calls⟩
      (answeredLabels calls.length caller now (.read now (.error error)) (.error error))
      ⟨db, calls ++ [⟨caller, .done⟩]⟩ := by
  have reads := @step_last _ _ calls caller _ _ _ _ _
    (.read (identityCodec.encode value) now db)
  rw [refused] at reads
  exact (lookup_begins notCreate isIdentity now).append (.single reads)

omit [SerdeJson] in
theorem read_ready {row : QuoteRequestRow} {quote : StoredXmrQuote} {now : Int}
    (member : row ∈ db.xmrQuoteRequests.rows) (holds : RowHolds row quote)
    (requested : row.requestedAt ≤ now) :
    readXmrQuote quote.id quote.identityJson now db = .ok quote.documentJson := by
  refine bind_eq_ok.mpr ⟨row, require_eq_ok.mpr
    (findQuoteRequest_eq_some.mpr ⟨member, holds.1⟩), ?_⟩
  exact storedResult_eq_ok.mpr ⟨holds.2.1, requested, holds.2.2⟩

theorem read_run {row : QuoteRequestRow} {quote : StoredXmrQuote} {now : Int}
    (isLookup : caller.operation = .lookup)
    (isIdentity : Identity.new caller.request caller.service.context = .ok value)
    (member : row ∈ db.xmrQuoteRequests.rows) (holds : RowHolds row quote)
    (sameId : quote.id = caller.request.id)
    (sameIdentity : quote.identityJson = identityCodec.encode value)
    (requested : row.requestedAt ≤ now) :
    QuoteRun ⟨db, calls⟩
      (answeredLabels calls.length caller now (.read now (.ok quote.documentJson))
        (.ok (.quote quote)))
      ⟨db, calls ++ [⟨caller, .done⟩]⟩ := by
  have isRead := read_ready member holds requested
  rw [sameId, sameIdentity] at isRead
  have decoded : StoredXmrQuote.decode quote.documentJson (identityCodec.encode value) =
      .ok quote := StoredXmrQuote.decode_eq_ok.mpr ⟨rfl, sameIdentity⟩
  have reads := @step_last _ _ calls caller _ _ _ _ _
    (.read (identityCodec.encode value) now db)
  rw [isRead] at reads
  simp only [afterRead, decoded, afterLookup, isLookup] at reads
  exact (lookup_begins (by simp [isLookup]) isIdentity now).append (.single reads)

/-! ## A new quote -/

def reservingLabels (index : Nat) (caller : QuoteCaller) (identity : String) (now : Int) :
    List QuoteLabel :=
  beginLabels index caller now ++
    [.acted index caller (.reserved identity now true (.ok none)) none]

def issuingLabels (index : Nat) (caller : QuoteCaller) (reserved issued : Int)
    (evidence : RateEvidence) : List QuoteLabel :=
  [.acted index caller .contacted none, .acted index caller (.fetched (some evidence)) none,
    .acted index caller (.issuing reserved evidence (some issued)) none]

def completedLabel (index : Nat) (caller : QuoteCaller) (issued : Int)
    (stored : StoredXmrQuote) : QuoteLabel :=
  .acted index caller (.completed stored issued true (.ok ())) (some (.ok (.quote stored)))

def createLabels (index : Nat) (caller : QuoteCaller) (identity : String) (now : Int)
    (evidence : RateEvidence) (stored : StoredXmrQuote) : List QuoteLabel :=
  reservingLabels index caller identity now ++ issuingLabels index caller now now evidence ++
    [completedLabel index caller now stored]

def failedLabels (index : Nat) (caller : QuoteCaller) (identity : String) (now : Int)
    (evidence : RateEvidence) (stored : StoredXmrQuote) (error : QuoteError) : List QuoteLabel :=
  reservingLabels index caller identity now ++ issuingLabels index caller now now evidence ++
    [.acted index caller (.completed stored now true (.error error)) none,
      .acted index caller (.markedFailed true) (some (.error error))]

structure Reservable (caller : QuoteCaller) (now : Int) (db : QuoteDb) : Prop where
  ticks : Ticks now db
  fits : now + reservationSeconds ≤ maxI64
  absent : ∀ row ∈ db.xmrQuoteRequests.rows, row.id ≠ caller.request.id
  inBounds : caller.service.policy.minTargetSats ≤ caller.request.targetSats ∧
    caller.request.targetSats ≤ caller.service.policy.maxTargetSats
  capacity : db.HasCapacity caller.service.policy caller.request.clientBucket now
    (saturatingSubI64 now caller.service.policy.admissionWindowSeconds)

theorem reserving_run {now : Int} (isCreate : caller.operation = .create)
    (isIdentity : Identity.new caller.request caller.service.context = .ok value)
    (reservable : Reservable caller now db) :
    ∃ fresh, QuoteRun ⟨db, calls⟩
      (reservingLabels calls.length caller (identityCodec.encode value) now)
      ⟨{ db with
        xmrQuoteClock := now
        xmrQuoteRequests := db.xmrQuoteRequests.insert
          (reservation caller.request (identityCodec.encode value) now) fresh },
        calls ++ [⟨caller, .contact (identityCodec.encode value) now⟩]⟩ := by
  have valid : caller.request.Valid := by
    simp only [Identity.new, bind_eq_ok, ensure_eq_ok] at isIdentity
    exact isIdentity.choose_spec.1.1
  rcases @reserveXmrQuote_of_absent caller.request (identityCodec.encode value) _ _ _
    reservable.ticks valid reservable.absent reservable.inBounds reservable.capacity
    reservable.fits with ⟨fresh, reserved⟩
  refine ⟨fresh, (create_begins isCreate isIdentity now).append (.single ?_)⟩
  exact step_last (.reserved true (commit_of_ok reserved))

theorem issuing_run {index : Nat} {reserved issued : Int} {evidence : RateEvidence}
    {priced : Int × XmrQuote}
    (running : calls[index]? = some ⟨caller, .contact (identityCodec.encode value) reserved⟩)
    (isIdentity : Identity.new caller.request caller.service.context = .ok value)
    (inBounds : caller.service.policy.minTargetSats ≤ caller.request.targetSats ∧
      caller.request.targetSats ≤ caller.service.policy.maxTargetSats)
    (prices : priceQuote caller.service caller.request.targetSats reserved issued evidence =
      .ok priced) :
    ∃ stored, QuoteRun ⟨db, calls⟩ (issuingLabels index caller reserved issued evidence)
        ⟨db, calls.set index
          ⟨caller, .complete (identityCodec.encode value) stored issued⟩⟩ ∧
      stored.id = caller.request.id ∧ stored.identityJson = identityCodec.encode value ∧
      stored.quote = priced.2 ∧ stored.parts.document.policy = caller.service.policy := by
  rcases issueQuote_of isIdentity rfl inBounds prices with
    ⟨stored, isIssued, isPriced, sameId, samePolicy⟩
  refine ⟨stored, ?_, sameId, issueQuote_identityJson isIssued, isPriced, samePolicy⟩
  have issuing : afterIssueSample caller (identityCodec.encode value) reserved evidence
      (some issued) = .goto (.complete (identityCodec.encode value) stored issued) := by
    simp only [afterIssueSample]
    rw [isIssued]
  let identity := identityCodec.encode value
  have waits : (calls.set index ⟨caller, .awaitEvidence identity reserved⟩)[index]? = some _ :=
    running_set running
  have samples : (calls.set index ⟨caller, .sampleIssue identity reserved evidence⟩)[index]? =
      some _ := running_set running
  have contacts := step_at running (.contacted identity reserved db)
  have fetches := step_at waits (.fetched identity reserved (some evidence) db)
  have sampled := step_at samples (.sampledIssue identity reserved evidence (some issued) db)
  rw [List.set_set] at fetches sampled
  rw [issuing] at sampled
  exact .cons contacts (.cons fetches (.single sampled))

theorem completing_run {index : Nat} {issued : Int} {row : QuoteRequestRow}
    {stored : StoredXmrQuote}
    (running : calls[index]? =
      some ⟨caller, .complete (identityCodec.encode value) stored issued⟩)
    (sameId : stored.id = caller.request.id)
    (sameIdentity : stored.identityJson = identityCodec.encode value)
    (completable : Completable stored issued row db) :
    ∃ marked, markRate stored.quote.rate (db.tick issued) = .ok marked ∧
      QuoteRun ⟨db, calls⟩ [completedLabel index caller issued stored]
        ⟨settleQuoteRequest stored.id (.ready stored.documentJson) marked,
          calls.set index ⟨caller, .done⟩⟩ := by
  have accepts : AcceptsRate stored.quote.rate (db.tick issued) := completable.accepts
  rcases markRate_accepts.mpr accepts with ⟨marked, marks⟩
  have completed : completeXmrQuote caller.request.id (identityCodec.encode value) stored issued
      db = .ok (settleQuoteRequest stored.id (.ready stored.documentJson) marked) := by
    rw [← sameId, ← sameIdentity]
    exact completeXmrQuote_of completable.ticks completable.member completable.sameId
      completable.isReserved completable.sameIdentity completable.inTime completable.issued marks
  exact ⟨marked, marks, .single (step_at running (.completed true (commit_of_ok (withUnit_of_ok completed))))⟩

/-- A call that waits with its reservation gets its quote and completes it. -/
theorem answering_run {index : Nat} {reserved issued : Int} {evidence : RateEvidence}
    {priced : Int × XmrQuote} {row : QuoteRequestRow}
    (running : calls[index]? = some ⟨caller, .contact (identityCodec.encode value) reserved⟩)
    (isIdentity : Identity.new caller.request caller.service.context = .ok value)
    (inBounds : caller.service.policy.minTargetSats ≤ caller.request.targetSats ∧
      caller.request.targetSats ≤ caller.service.policy.maxTargetSats)
    (prices : priceQuote caller.service caller.request.targetSats reserved issued evidence =
      .ok priced)
    (ticks : Ticks issued db) (member : row ∈ db.xmrQuoteRequests.rows)
    (rowId : row.id = caller.request.id) (isReserved : row.status = .reserved)
    (rowIdentity : row.identityJson = identityCodec.encode value)
    (inTime : issued < row.reservationUntil) (accepts : AcceptsRate evidence.rate db) :
    ∃ stored marked, markRate stored.quote.rate (db.tick issued) = .ok marked ∧
      QuoteRun ⟨db, calls⟩
        (issuingLabels index caller reserved issued evidence ++
          [completedLabel index caller issued stored])
        ⟨settleQuoteRequest stored.id (.ready stored.documentJson) marked,
          calls.set index ⟨caller, .done⟩⟩ ∧
      stored.id = caller.request.id ∧ stored.identityJson = identityCodec.encode value ∧
      stored.quote = priced.2 ∧ stored.parts.document.policy = caller.service.policy := by
  rcases @issuing_run _ _ db _ _ _ _ _ _ _ _ running isIdentity inBounds prices with
    ⟨stored, issuing, sameId, sameIdentity, isPriced, samePolicy⟩
  rcases priceQuote_fields prices with ⟨sameRate, sameIssued, _⟩
  have completable : Completable stored issued row db := by
    constructor
    · exact ticks
    · exact member
    · exact rowId.trans sameId.symm
    · exact isReserved
    · exact rowIdentity.trans sameIdentity.symm
    · exact inTime
    · rw [isPriced, sameIssued]
    · rw [isPriced, sameRate]
      exact accepts
  rcases completing_run (running_set running) sameId sameIdentity completable with
    ⟨marked, marks, completing⟩
  rw [List.set_set] at completing
  exact ⟨stored, marked, marks, issuing.append completing, sameId, sameIdentity, isPriced,
    samePolicy⟩

end Calls

/-! ## What an issued quote leaves -/

section Issued

variable [QuoteJson] {db after : QuoteDb}

omit [QuoteJson] in
theorem MarksRate.first {rate : XmrBtcRate} (marks : MarksRate rate db after)
    (unmarked : db.xmrRateWatermarks.rows = []) :
    after.xmrRateWatermarks.rows = [.ofRate rate] := by
  cases marks with
  | agrees member =>
      rw [unmarked] at member
      cases member
  | advances member =>
      rw [unmarked] at member
      cases member
  | begins _ fresh =>
      rw [Table.rows_insert, unmarked]
      rfl

/-- A request was reserved and its quote completed, and nothing else has happened. -/
structure Issues (request : QuoteRequest) (identity : String) (now : Int)
    (stored : StoredXmrQuote) (before after : QuoteDb) : Prop where
  sameId : stored.id = request.id
  sameIdentity : stored.identityJson = identity
  rows : after.xmrQuoteRequests.rows = before.xmrQuoteRequests.rows ++
    [{ reservation request identity now with status := .ready stored.documentJson }]
  clock : after.xmrQuoteClock = now
  bindings : after.xmrQuoteBindings = before.xmrQuoteBindings
  ledger : after.ledger = before.ledger
  marks : ∃ source target, MarksRate stored.quote.rate source target ∧
    source.xmrRateWatermarks = before.xmrRateWatermarks ∧
    after.xmrRateWatermarks = target.xmrRateWatermarks

namespace Issues

variable {request : QuoteRequest} {identity : String} {now : Int} {stored : StoredXmrQuote}

theorem member (issues : Issues request identity now stored db after) :
    ∃ row ∈ after.xmrQuoteRequests.rows, RowHolds row stored ∧ row.requestedAt = now := by
  refine ⟨{ reservation request identity now with status := .ready stored.documentJson }, ?_,
    ⟨issues.sameId.symm, issues.sameIdentity.symm, rfl⟩, rfl⟩
  rw [issues.rows]
  exact List.mem_append_right _ List.mem_cons_self

theorem mem_cases (issues : Issues request identity now stored db after) {row : QuoteRequestRow}
    (member : row ∈ after.xmrQuoteRequests.rows) : row ∈ db.xmrQuoteRequests.rows ∨
      row.id = request.id ∧ row.clientBucket = request.clientBucket ∧ row.requestedAt = now := by
  rw [issues.rows] at member
  rcases List.mem_append.mp member with old | isNew
  · exact .inl old
  · rw [List.mem_singleton.mp isNew]
    exact .inr ⟨rfl, rfl, rfl⟩

theorem rows_length (issues : Issues request identity now stored db after) :
    after.xmrQuoteRequests.rows.length = db.xmrQuoteRequests.rows.length + 1 := by
  rw [issues.rows, List.length_append, List.length_singleton]

theorem ticks (issues : Issues request identity now stored db after) {later : Int}
    (nonneg : 0 ≤ now) (notBehind : now ≤ later) : Ticks later after := by
  constructor
  · rw [issues.clock]
    exact notBehind
  · exact nonneg.trans notBehind

theorem marks_first (issues : Issues request identity now stored db after)
    (unmarked : db.xmrRateWatermarks.rows = []) :
    after.xmrRateWatermarks.rows = [.ofRate stored.quote.rate] := by
  rcases issues.marks with ⟨source, target, marks, before, isAfter⟩
  rw [isAfter]
  rw [← before] at unmarked
  exact marks.first unmarked

theorem marks_again (issues : Issues request identity now stored db after) {mark : RateWatermark}
    (marked : db.xmrRateWatermarks.rows = [mark]) (sameSource : mark.source = stored.quote.rate.source)
    (sameTime : mark.observedAt = stored.quote.rate.observedAt) :
    after.xmrRateWatermarks.rows = [mark] := by
  rcases issues.marks with ⟨source, target, marks, before, isAfter⟩
  rw [isAfter]
  rw [← before] at marked
  cases marks with
  | agrees => exact marked
  | advances member _ newer =>
      rw [marked, List.mem_singleton] at member
      rw [member, sameTime] at newer
      exact absurd newer (Int.lt_irrefl _)
  | begins absent =>
      refine absurd sameSource (absent mark ?_)
      rw [marked]
      exact List.mem_cons_self

end Issues

end Issued

/-! ## From the request to the answer -/

section Calls

variable [QuoteJson] [SerdeJson] {db : QuoteDb} {calls : List QuoteCall} {caller : QuoteCaller}
  {value : Identity}

/-- An undisturbed create call has its reservation and its quote, and has not completed. -/
theorem pricing_run {now : Int} {evidence : RateEvidence} {priced : Int × XmrQuote}
    (isCreate : caller.operation = .create)
    (isIdentity : Identity.new caller.request caller.service.context = .ok value)
    (reservable : Reservable caller now db)
    (prices : priceQuote caller.service caller.request.targetSats now now evidence = .ok priced) :
    ∃ stored fresh, QuoteRun ⟨db, calls⟩
        (reservingLabels calls.length caller (identityCodec.encode value) now ++
          issuingLabels calls.length caller now now evidence)
        ⟨{ db with
          xmrQuoteClock := now
          xmrQuoteRequests := db.xmrQuoteRequests.insert
            (reservation caller.request (identityCodec.encode value) now) fresh },
          calls ++ [⟨caller, .complete (identityCodec.encode value) stored now⟩]⟩ ∧
      stored.id = caller.request.id ∧ stored.identityJson = identityCodec.encode value ∧
      stored.quote = priced.2 ∧ stored.parts.document.policy = caller.service.policy := by
  rcases @reserving_run _ _ db calls caller value now isCreate isIdentity reservable with
    ⟨fresh, reserving⟩
  have running : (calls ++ [⟨caller, .contact (identityCodec.encode value) now⟩])[calls.length]? =
      some ⟨caller, .contact (identityCodec.encode value) now⟩ := by simp
  rcases issuing_run running isIdentity reservable.inBounds prices with
    ⟨stored, issuing, sameId, sameIdentity, isPriced, samePolicy⟩
  rw [List.set_append_right _ _ (Nat.le_refl _), Nat.sub_self] at issuing
  exact ⟨stored, fresh, reserving.append issuing, sameId, sameIdentity, isPriced, samePolicy⟩

theorem create_run {now : Int} {evidence : RateEvidence} {priced : Int × XmrQuote}
    (isCreate : caller.operation = .create)
    (isIdentity : Identity.new caller.request caller.service.context = .ok value)
    (reservable : Reservable caller now db)
    (prices : priceQuote caller.service caller.request.targetSats now now evidence = .ok priced)
    (accepts : AcceptsRate evidence.rate db) :
    ∃ stored after, QuoteRun ⟨db, calls⟩
        (createLabels calls.length caller (identityCodec.encode value) now evidence stored)
        ⟨after, calls ++ [⟨caller, .done⟩]⟩ ∧
      Issues caller.request (identityCodec.encode value) now stored db after ∧
      stored.quote = priced.2 ∧ stored.parts.document.policy = caller.service.policy := by
  rcases @reserving_run _ _ db calls caller value now isCreate isIdentity reservable with
    ⟨fresh, reserving⟩
  let held := reservation caller.request (identityCodec.encode value) now
  let admitted : QuoteDb := { db with
    xmrQuoteClock := now
    xmrQuoteRequests := db.xmrQuoteRequests.insert held fresh }
  have running : (calls ++ [⟨caller, .contact (identityCodec.encode value) now⟩])[calls.length]? =
      some ⟨caller, .contact (identityCodec.encode value) now⟩ := by simp
  have inTime : now < held.reservationUntil := by
    change now < now + reservationSeconds
    unfold reservationSeconds
    omega
  rcases @answering_run _ _ admitted _ caller value _ now now evidence priced held running
    isIdentity reservable.inBounds prices ⟨Int.le_refl now, reservable.ticks.nonneg⟩
    (Table.mem_rows_insert_new fresh) rfl rfl rfl inTime accepts with
    ⟨stored, marked, marks, answering, sameId, sameIdentity, isPriced, samePolicy⟩
  have run := reserving.append answering
  rw [List.set_append_right _ _ (Nat.le_refl _), Nat.sub_self, ← List.append_assoc] at run
  have isMarked := markRate_cases marks
  refine ⟨stored, _, run, ?_, isPriced, samePolicy⟩
  constructor
  · exact sameId
  · exact sameIdentity
  · rw [rows_settleQuoteRequest, isMarked.rows_eq]
    change (db.xmrQuoteRequests.insert held fresh).rows.map _ = _
    rw [Table.rows_insert, List.map_append, List.map_singleton,
      QuoteRequestRow.settle_of_reserved sameId.symm rfl]
    have kept : db.xmrQuoteRequests.rows.map
        (QuoteRequestRow.settle stored.id (.ready stored.documentJson)) =
          db.xmrQuoteRequests.rows := by
      apply (List.map_congr_left fun row member => ?_).trans (List.map_id _)
      apply QuoteRequestRow.settle_of_other
      rw [sameId]
      exact reservable.absent row member
    rw [kept]
  · rw [settleQuoteRequest_xmrQuoteClock, isMarked.clock_eq]
    rfl
  · rw [settleQuoteRequest_xmrQuoteBindings, isMarked.eq_with]
    rfl
  · rw [settleQuoteRequest_ledger, isMarked.eq_with]
    rfl
  · exact ⟨_, marked, isMarked, rfl, rfl⟩

theorem failed_run {now : Int} {evidence : RateEvidence} {priced : Int × XmrQuote}
    (isCreate : caller.operation = .create)
    (isIdentity : Identity.new caller.request caller.service.context = .ok value)
    (reservable : Reservable caller now db)
    (prices : priceQuote caller.service caller.request.targetSats now now evidence = .ok priced)
    (refuses : ¬ AcceptsRate evidence.rate db) :
    ∃ stored error after, QuoteRun ⟨db, calls⟩
        (failedLabels calls.length caller (identityCodec.encode value) now evidence stored error)
        ⟨after, calls ++ [⟨caller, .done⟩]⟩ := by
  rcases @pricing_run _ _ db calls caller value now evidence priced isCreate isIdentity reservable
    prices with ⟨stored, fresh, pricing, sameId, sameIdentity, isPriced, _⟩
  let admitted : QuoteDb := { db with
    xmrQuoteClock := now
    xmrQuoteRequests := db.xmrQuoteRequests.insert
      (reservation caller.request (identityCodec.encode value) now) fresh }
  have running : (calls ++ [⟨caller, .complete (identityCodec.encode value) stored now⟩])[
      calls.length]? = some ⟨caller, .complete (identityCodec.encode value) stored now⟩ := by simp
  rcases priceQuote_fields prices with ⟨sameRate, _, _⟩
  have fails : ∃ error, completeXmrQuote caller.request.id (identityCodec.encode value) stored now
      admitted = .error error := by
    cases completed : completeXmrQuote caller.request.id (identityCodec.encode value) stored now
        admitted with
    | error error => exact ⟨error, rfl⟩
    | ok after =>
        rw [← sameId, ← sameIdentity] at completed
        rcases completeXmrQuote_completes.mp ⟨after, completed⟩ with ⟨_, completable⟩
        have accepts := completable.accepts
        rw [isPriced, sameRate] at accepts
        exact absurd accepts refuses
  rcases fails with ⟨error, failed⟩
  have completes := step_at running
    (.completed true (commit_of_error (withUnit_eq_error.mpr failed)))
  have marking := @running_set _ _ _ _ ⟨caller, .markFailed error⟩ running
  have marks := step_at marking (.markedFailed error true admitted)
  rw [List.set_set] at marks
  have run := pricing.append (.cons completes (.single marks))
  rw [List.set_append_right _ _ (Nat.le_refl _), Nat.sub_self] at run
  exact ⟨stored, error, _, run⟩

end Calls

/-! ## An example -/

def exampleEvidenceJson : String :=
  "\x7b\"fixture\":\"private-rate-evidence\"\x7d"

/-- Documents are read back with the codecs. The digest and the syntax check are
those of the one evidence text. -/
@[reducible] def exampleQuoteJson : QuoteJson where
  readIdentity := identityCodec.decode
  readDocument := documentCodec.decode
  isJson text := text = exampleEvidenceJson
  sha256 text := if text = exampleEvidenceJson
    then "c7d1ac0041275295d4eac921329e0178eacf0ecf6d88a01a743f4e587d8f1abf"
    else ""
  readIdentity_written := identityCodec.decode_encode
  readDocument_written := documentCodec.decode_encode

def examplePolicy : QuotePolicy where
  minTargetSats := 1
  maxTargetSats := 10000
  maxCreditSats := 20000
  maxPiconero := 1000000000000
  lifetimeSeconds := 120
  maxRateAgeSeconds := 300
  minSatsPerXmr := 100
  maxSatsPerXmr := 1000000
  admissionWindowSeconds := 60
  maxRequestsPerWindow := 3
  maxRequestsPerClientWindow := 1
  maxPendingRequests := 3
  maxRetainedRequests := 100

def exampleService : QuoteService where
  context := ⟨"moneropay", "test-private-account", .stagenet⟩
  policy := examplePolicy
  sourceId := "fixture-xmrbtc-v1"
  policyValid := by decide
  contextValid := by decide +kernel
  sourceValid := by decide +kernel

def exampleRequest (id : Uuid) (client : Char) : QuoteRequest where
  id := id
  clientBucket := String.ofList (List.replicate 64 client)
  addressUser := "nova"
  targetSats := 1000

def exampleEvidence : RateEvidence where
  rate := ⟨250000, 1, "fixture-xmrbtc-v1", 900, by decide, Nat.one_pos, by decide,
    by decide, by decide⟩
  fetchedAt := 1000
  rawJson := exampleEvidenceJson
  chronological := by decide
  nonempty := by decide +kernel
  bounded := by decide +kernel

def exampleCreator (id : Uuid) (client : Char) : QuoteCaller :=
  ⟨exampleService, exampleRequest id client, .create⟩

def exampleLookup (id : Uuid) (client : Char) : QuoteCaller :=
  ⟨exampleService, exampleRequest id client, .lookup⟩

def exampleIdentity (id : Uuid) (client : Char) : Identity :=
  ⟨id, String.ofList (List.replicate 64 client), "nova", 1000, "moneropay",
    "test-private-account", "stagenet"⟩

def exampleIdentityJson (id : Uuid) (client : Char) : String :=
  identityCodec.encode (exampleIdentity id client)

theorem exampleIdentity_new :
    Identity.new (exampleRequest ⟨7⟩ 'a') exampleService.context =
        .ok (exampleIdentity ⟨7⟩ 'a') ∧
      Identity.new (exampleRequest ⟨8⟩ 'b') exampleService.context =
        .ok (exampleIdentity ⟨8⟩ 'b') ∧
      Identity.new (exampleRequest ⟨9⟩ 'c') exampleService.context =
        .ok (exampleIdentity ⟨9⟩ 'c') ∧
      Identity.new (exampleRequest ⟨8⟩ 'a') exampleService.context =
        .ok (exampleIdentity ⟨8⟩ 'a') := by
  decide +kernel

def examplePricing (reserved issued : Int) (evidence : RateEvidence) : Option (Int × XmrQuote) :=
  (priceQuote exampleService 1000 reserved issued evidence).toOption

theorem priceQuote_of_pricing {reserved issued : Int} {evidence : RateEvidence}
    (succeeds : (examplePricing reserved issued evidence).isSome = true) :
    priceQuote exampleService 1000 reserved issued evidence =
      .ok ((examplePricing reserved issued evidence).get succeeds) := by
  cases outcome : priceQuote exampleService 1000 reserved issued evidence with
  | ok priced => simp [examplePricing, outcome, Except.toOption]
  | error error =>
      rw [examplePricing, outcome] at succeeds
      cases succeeds

theorem examplePricing_succeeds : (examplePricing 1000 1000 exampleEvidence).isSome = true := by
  decide +kernel

/-- What 1000 sats cost at 1000. -/
def examplePrice : XmrQuote :=
  ((examplePricing 1000 1000 exampleEvidence).get examplePricing_succeeds).2

theorem exampleBucket_inj {id other : Uuid} {left right : Char}
    (same : (exampleRequest id left).clientBucket = (exampleRequest other right).clientBucket) :
    left = right := by
  have digits : List.replicate 64 left = List.replicate 64 right := String.ofList_injective same
  exact (List.replicate_inj.mp digits).2.resolve_left (by decide)

theorem Issues.absent [QuoteJson] {id other : Uuid} {client letter : Char} {identity : String}
    {now : Int} {stored : StoredXmrQuote} {before after : QuoteDb}
    (issues : Issues (exampleRequest other letter) identity now stored before after)
    (otherId : other ≠ id) (otherClient : letter ≠ client)
    (absent : ∀ row ∈ before.xmrQuoteRequests.rows,
      row.id ≠ id ∧ row.clientBucket ≠ (exampleRequest id client).clientBucket) :
    ∀ row ∈ after.xmrQuoteRequests.rows,
      row.id ≠ id ∧ row.clientBucket ≠ (exampleRequest id client).clientBucket := by
  intro row member
  rcases issues.mem_cases member with old | ⟨isOther, isBucket, _⟩
  · exact absent row old
  · rw [isOther, isBucket]
    exact ⟨otherId, fun same => otherClient (exampleBucket_inj same)⟩

/-- A client that has no request yet is admitted as one of the first three. -/
theorem example_reservable {id : Uuid} {client : Char} {db : QuoteDb} {now : Int}
    (ticks : Ticks now db) (fits : now + reservationSeconds ≤ maxI64)
    (few : db.xmrQuoteRequests.rows.length ≤ 2)
    (absent : ∀ row ∈ db.xmrQuoteRequests.rows,
      row.id ≠ id ∧ row.clientBucket ≠ (exampleRequest id client).clientBucket) :
    Reservable (exampleCreator id client) now db := by
  have inBounds : examplePolicy.minTargetSats ≤ 1000 ∧ 1000 ≤ examplePolicy.maxTargetSats := by
    decide
  have capacity : db.HasCapacity examplePolicy (exampleRequest id client).clientBucket now
      (saturatingSubI64 now examplePolicy.admissionWindowSeconds) := by
    refine ⟨few.trans_lt (by decide), ?_, ?_, ?_⟩
    · exact ((List.length_filter_le _ _).trans few).trans_lt (by decide)
    · rw [QuoteDb.recentOf, List.filter_eq_nil_iff.mpr]
      · decide
      · intro row member
        simp only [decide_eq_true_eq, not_and]
        exact fun same => absurd same (absent row member).2
    · exact ((List.length_filter_le _ _).trans few).trans_lt (by decide)
  exact ⟨ticks, fits, fun row member => (absent row member).1, inBounds, capacity⟩

theorem examplePrice_fields : examplePrice.rate = exampleEvidence.rate ∧
    examplePrice.issuedAt = 1000 ∧ examplePrice.expiresAt = 1120 :=
  priceQuote_fields (priceQuote_of_pricing examplePricing_succeeds)

/-- On a fresh store request 7 gets its quote at 1000, whatever calls were made before. -/
theorem example_creates (calls : List (@QuoteCall exampleQuoteJson)) :
    letI := exampleQuoteJson
    letI := exampleJson
    ∃ stored db, QuoteRun ⟨.fresh, calls⟩ (createLabels calls.length (exampleCreator ⟨7⟩ 'a')
        (exampleIdentityJson ⟨7⟩ 'a') 1000 exampleEvidence stored)
        ⟨db, calls ++ [⟨exampleCreator ⟨7⟩ 'a', .done⟩]⟩ ∧
      Issues (exampleRequest ⟨7⟩ 'a') (exampleIdentityJson ⟨7⟩ 'a') 1000 stored .fresh db ∧
      stored.quote = examplePrice ∧ stored.parts.document.policy = examplePolicy := by
  let := exampleQuoteJson
  let := exampleJson
  have reservable : Reservable (exampleCreator ⟨7⟩ 'a') 1000 .fresh :=
    example_reservable ⟨by decide, by decide⟩ (by decide) (by simp [QuoteDb.fresh])
      (by simp [QuoteDb.fresh])
  have accepts : AcceptsRate exampleEvidence.rate .fresh := by simp [AcceptsRate, QuoteDb.fresh]
  exact create_run rfl exampleIdentity_new.1 reservable
    (priceQuote_of_pricing examplePricing_succeeds) accepts

theorem exampleRun_prices :
    letI := exampleQuoteJson
    letI := exampleJson
    ∃ stored fresh, QuoteRun .initial
        (reservingLabels 0 (exampleCreator ⟨7⟩ 'a') (exampleIdentityJson ⟨7⟩ 'a') 1000 ++
          issuingLabels 0 (exampleCreator ⟨7⟩ 'a') 1000 1000 exampleEvidence)
        ⟨{ QuoteDb.fresh with
          xmrQuoteClock := 1000
          xmrQuoteRequests := QuoteDb.fresh.xmrQuoteRequests.insert (reservation
            (exampleRequest ⟨7⟩ 'a') (exampleIdentityJson ⟨7⟩ 'a') 1000) fresh },
          [⟨exampleCreator ⟨7⟩ 'a', .complete (exampleIdentityJson ⟨7⟩ 'a') stored 1000⟩]⟩ ∧
      stored.id = ⟨7⟩ ∧ stored.identityJson = exampleIdentityJson ⟨7⟩ 'a' ∧
      stored.quote = examplePrice := by
  let := exampleQuoteJson
  let := exampleJson
  have reservable : Reservable (exampleCreator ⟨7⟩ 'a') 1000 .fresh :=
    example_reservable ⟨by decide, by decide⟩ (by decide) (by simp [QuoteDb.fresh])
      (by simp [QuoteDb.fresh])
  rcases @pricing_run _ _ .fresh [] (exampleCreator ⟨7⟩ 'a') _ 1000 exampleEvidence _ rfl
    exampleIdentity_new.1 reservable (priceQuote_of_pricing examplePricing_succeeds) with
    ⟨stored, fresh, pricing, sameId, sameIdentity, isPriced, _⟩
  exact ⟨stored, fresh, pricing, sameId, sameIdentity, isPriced⟩

end LightningGoats
