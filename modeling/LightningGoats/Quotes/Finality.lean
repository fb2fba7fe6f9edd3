import LightningGoats.Quotes.Bindings
import LightningGoats.Quotes.Owners

/-! # A request is settled once

What a request has become it stays, and every answer about it says so. The time of a
completion was read before its transaction, so the end of a reservation is only final
for the completions that commit before it.
-/

namespace LightningGoats

open Outcome Relational

/-! ## Readings -/

section Readings

variable [QuoteJson]

def QuoteEvent.reading : QuoteEvent → Option Int
  | sampled reading => reading
  | issuing _ _ reading => reading
  | _ => none

def QuoteLabel.reading : QuoteLabel → Option Int
  | acted _ _ event _ => event.reading
  | _ => none

def readings (labels : List QuoteLabel) : List Int :=
  labels.filterMap QuoteLabel.reading

theorem mem_readings_append {earlier later : List QuoteLabel} {reading : Int}
    (member : reading ∈ readings earlier) : reading ∈ readings (earlier ++ later) := by
  rw [readings, List.filterMap_append]
  exact List.mem_append_left _ member

/-- Since a request was reserved, a call has read the clock at the end of its
reservation or later. -/
def Expired (id : Uuid) (past : List QuoteLabel) : Prop :=
  ∃ earlier reserving later row reading, past = earlier ++ reserving :: later ∧
    reserving.change.added = some row ∧ row.id = id ∧ reading ∈ readings later ∧
      row.reservationUntil ≤ reading

theorem Expired.append {id : Uuid} {past : List QuoteLabel} (expired : Expired id past)
    (later : List QuoteLabel) : Expired id (past ++ later) := by
  rcases expired with
    ⟨earlier, reserving, since, row, reading, rfl, isAdded, sameId, isReading, late⟩
  refine ⟨earlier, reserving, since ++ later, row, reading, ?_, isAdded, sameId, ?_, late⟩
  · rw [List.append_assoc, List.cons_append]
  · exact mem_readings_append isReading

/-- The quote and the time that a complete transaction runs with, whatever becomes of it. -/
def QuoteLabel.completing : QuoteLabel → Option (StoredXmrQuote × Int)
  | acted _ _ (.completed quote now _ _) _ => some (quote, now)
  | _ => none

end Readings

/-! ## Rows -/

section Rows

variable [QuoteJson]

theorem QuoteChange.develop_cases (change : QuoteChange) (row : QuoteRequestRow) :
    change.develop row = row ∨ (row.status = .reserved ∧
      ∃ status, status ≠ .reserved ∧ change.develop row = { row with status := status }) := by
  cases change with
  | completes quote now =>
      rcases row.settle_cases quote.id (.ready quote.documentJson) with
        kept | ⟨_, isReserved, settled⟩
      · exact .inl kept
      · exact .inr ⟨isReserved, .ready quote.documentJson, QuoteStatus.noConfusion, settled⟩
  | fails id =>
      rcases row.settle_cases id .failed with kept | ⟨_, isReserved, settled⟩
      · exact .inl kept
      · exact .inr ⟨isReserved, .failed, QuoteStatus.noConfusion, settled⟩
  | _ => exact .inl rfl

variable [SerdeJson] {before after : QuoteDb} {change : QuoteChange}

def Ready (id : Uuid) (db : QuoteDb) : Prop :=
  ∃ row ∈ db.xmrQuoteRequests.rows, row.id = id ∧ ∃ documentJson, row.status = .ready documentJson

theorem QuoteChanges.readies {id : Uuid} (changes : QuoteChanges before change after)
    (notReady : ¬ Ready id before) (ready : Ready id after) :
    ∃ quote, change.completion = some quote ∧ quote.id = id := by
  rcases ready with ⟨row, member, sameId, documentJson, isReady⟩
  rcases changes.mem_rows member with ⟨old, isOld, rfl⟩ | isNew
  · cases changes with
    | @completes _ _ _ quote =>
        rcases old.settle_cases quote.id (.ready quote.documentJson) with
          unchanged | ⟨isId, _, _⟩
        · refine absurd ⟨old, isOld, sameId.symm ▸ (QuoteChange.develop_id _ _).symm, ?_⟩ notReady
          exact ⟨documentJson, unchanged ▸ isReady⟩
        · exact ⟨quote, rfl, isId.symm.trans ((QuoteChange.develop_id _ _).symm.trans sameId)⟩
    | fails failed =>
        rcases old.settle_cases failed .failed with unchanged | ⟨_, _, settled⟩
        · refine absurd ⟨old, isOld, sameId.symm ▸ (QuoteChange.develop_id _ _).symm, ?_⟩ notReady
          exact ⟨documentJson, unchanged ▸ isReady⟩
        · have isFailed : QuoteStatus.failed = .ready documentJson :=
            (congrArg QuoteRequestRow.status settled).symm.trans isReady
          cases isFailed
    | _ => exact absurd ⟨old, isOld, sameId, documentJson, isReady⟩ notReady
  · cases changes <;> cases isNew
    cases isReady

theorem QuoteChanges.completes_row {quote : StoredXmrQuote}
    (changes : QuoteChanges before change after) (isCompletion : change.completion = some quote) :
    ∃ row ∈ before.xmrQuoteRequests.rows, row.id = quote.id ∧ row.status = .reserved ∧
      { row with status := .ready quote.documentJson } ∈ after.xmrQuoteRequests.rows := by
  cases changes with
  | @completes _ _ row _ _ _ member sameId isReserved _ _ _ marks =>
      cases isCompletion
      refine ⟨row, member, sameId, isReserved, ?_⟩
      rw [rows_settleQuoteRequest, marks.rows_eq,
        ← QuoteRequestRow.settle_of_reserved sameId isReserved]
      exact List.mem_map_of_mem member
  | _ => cases isCompletion

theorem QuoteChanges.added_mem {row : QuoteRequestRow} (changes : QuoteChanges before change after)
    (isAdded : change.added = some row) : row ∈ after.xmrQuoteRequests.rows := by
  rw [changes.rows_eq, isAdded]
  exact List.mem_append_right _ List.mem_cons_self

/-- The rows are the reservations that were added, but for their status. -/
def RowsAdded (past : List QuoteChange) (db : QuoteDb) : Prop :=
  (∀ row ∈ db.xmrQuoteRequests.rows, ∃ change ∈ past, ∃ added, change.added = some added ∧
    { added with status := row.status } = row) ∧
  ∀ change ∈ past, ∀ added, change.added = some added →
    ∃ status, { added with status := status } ∈ db.xmrQuoteRequests.rows

theorem RowsAdded.of_changes {past : List QuoteChange} (rowsAdded : RowsAdded past before)
    (changes : QuoteChanges before change after) : RowsAdded (past ++ [change]) after := by
  constructor
  · intro row member
    rcases changes.mem_rows member with ⟨old, isOld, rfl⟩ | isNew
    · rcases rowsAdded.1 old isOld with ⟨earlier, isEarlier, added, isAdded, isRow⟩
      refine ⟨earlier, List.mem_append_left _ isEarlier, added, isAdded, ?_⟩
      rcases change.develop_cases old with kept | ⟨_, status, _, settled⟩
      · rw [kept]
        exact isRow
      · rw [settled, ← isRow]
    · exact ⟨change, List.mem_append_right _ List.mem_cons_self, row, isNew, rfl⟩
  · intro earlier isEarlier added isAdded
    cases List.mem_append.mp isEarlier with
    | inl old =>
        rcases rowsAdded.2 earlier old added isAdded with ⟨status, member⟩
        have developed := changes.develop_mem member
        rcases change.develop_cases { added with status := status } with
          kept | ⟨_, status, _, settled⟩
        · exact ⟨status, kept ▸ developed⟩
        · exact ⟨status, settled ▸ developed⟩
    | inr isNew =>
        rw [List.mem_singleton.mp isNew] at isAdded
        exact ⟨added.status, changes.added_mem isAdded⟩

theorem RowsAdded.of_history {changes : List QuoteChange}
    (history : QuoteHistory .fresh changes after) : RowsAdded changes after := by
  have none : RowsAdded [] .fresh := by simp [RowsAdded, QuoteDb.fresh]
  exact @Execution.Run.history _ _ QuoteChanges _ _ _ RowsAdded
    (fun rowsAdded step => rowsAdded.of_changes step) history [] none

end Rows

/-! ## Answers -/

section Answers

variable [QuoteJson] {caller : QuoteCaller} {pc : QuotePc} {db after : QuoteDb}
  {event : QuoteEvent} {next : QuoteNext} {row : QuoteRequestRow} {quote : StoredXmrQuote}

def Answers (quote : StoredXmrQuote) : QuoteAnswer → Prop
  | .quote stored => stored = quote
  | .intent intent => quote.creditIntent intent.receiveScope = .ok intent

omit [QuoteJson] in
theorem found_eq {found : QuoteRequestRow} (member : row ∈ db.xmrQuoteRequests.rows)
    (isFound : findQuoteRequest row.id db = some found) : found = row := by
  rcases findQuoteRequest_eq_some.mp isFound with ⟨isMember, sameId⟩
  exact db.xmrQuoteRequests.row_eq_of_key isMember member sameId

theorem decode_answers {documentJson identity : String} {stored : StoredXmrQuote}
    (decoded : StoredXmrQuote.decode documentJson identity = .ok stored)
    (sameDocument : documentJson = quote.documentJson) : stored = quote :=
  StoredXmrQuote.eq_of_documentJson ((StoredXmrQuote.decode_eq_ok.mp decoded).1.trans sameDocument)

theorem afterLookup_answers {operation : QuoteOperation} {stored : StoredXmrQuote}
    {answer : QuoteAnswer}
    (succeeds : (afterLookup operation stored).response = some (.ok answer)) :
    answer = .quote stored := by
  revert succeeds
  fun_cases afterLookup <;> intro succeeds <;> cases succeeds
  rfl

variable [SerdeJson]

/-- A call that succeeds answers with the quote, for a caller that has its identity. -/
theorem QuoteActs.answers (acts : QuoteActs caller pc db event next after)
    (sound : pc.Sound caller) (member : row ∈ db.xmrQuoteRequests.rows)
    (sameId : row.id = caller.request.id) (holds : RowHolds row quote) {answer : QuoteAnswer}
    (succeeds : next.response = some (.ok answer)) :
    Answers quote answer ∧ caller.Identifies row.identityJson := by
  have isReady := holds.2.2
  cases acts with
  | slot granted => revert succeeds; fun_cases afterSlot <;> intro succeeds <;> cases succeeds
  | sampledReserve identity reading => cases reading <;> cases succeeds
  | @reserved identity now _ _ result replied ran =>
      rcases commit_cases ran with ⟨existing, rfl, committed⟩ | ⟨error, rfl, _, _⟩
      · rcases reserveXmrQuote_cases committed ⟨_, sound.2⟩ with
          ⟨found, documentJson, isFound, sameIdentity, foundReady, rfl, _⟩ | ⟨rfl, _⟩
        · rw [← sameId] at isFound
          have sameRow := found_eq member isFound
          subst sameRow
          have sameDocument := QuoteStatus.ready.inj (foundReady.symm.trans isReady)
          cases replied with
          | false => cases succeeds
          | true =>
              cases decoded : StoredXmrQuote.decode documentJson identity with
              | error error =>
                  simp only [afterReserve, decoded, Except.map] at succeeds
                  cases succeeds
              | ok stored =>
                  simp only [afterReserve, decoded, Except.map] at succeeds
                  cases succeeds
                  refine ⟨decode_answers decoded sameDocument, ?_⟩
                  rw [sameIdentity]
                  exact sound.2
        · cases replied <;> cases succeeds
      · cases succeeds
  | contacted => cases succeeds
  | fetched identity now evidence => cases evidence <;> cases succeeds
  | sampledIssue identity now evidence reading =>
      revert succeeds
      fun_cases afterIssueSample <;> intro succeeds <;> cases succeeds
  | @completed _ stored _ _ _ result replied ran =>
      rcases commit_cases ran with ⟨_, rfl, committed⟩ | ⟨error, rfl, _, _⟩
      · rcases completeXmrQuote_changes (withUnit_eq_ok.mp committed) sound.2.2 with
          ⟨isQuote, changes⟩
        cases changes with
        | completes _ isMember rowId isReserved =>
            have sameRow := db.xmrQuoteRequests.row_eq_of_key isMember member
              (rowId.trans (isQuote.trans sameId.symm))
            rw [sameRow, isReady] at isReserved
            cases isReserved
      · cases succeeds
  | markedFailed => cases succeeds
  | sampledRead identity reading => cases reading <;> cases succeeds
  | read identity now =>
      cases isRead : readXmrQuote caller.request.id identity now db with
      | error error =>
          rw [isRead] at succeeds
          cases succeeds
      | ok documentJson =>
          have steps := isRead
          simp only [readXmrQuote, bind_eq_ok, require_eq_ok, storedResult_eq_ok] at steps
          rcases steps with ⟨found, isFound, sameIdentity, _, foundReady⟩
          rw [← sameId] at isFound
          have sameRow := found_eq member isFound
          subst sameRow
          have sameDocument := QuoteStatus.ready.inj (foundReady.symm.trans isReady)
          rw [isRead] at succeeds
          refine ⟨?_, sameIdentity ▸ sound.2⟩
          cases decoded : StoredXmrQuote.decode documentJson identity with
          | error error =>
              simp only [afterRead, decoded] at succeeds
              cases succeeds
          | ok stored =>
              have isQuote := decode_answers decoded sameDocument
              simp only [afterRead, decoded] at succeeds
              rw [afterLookup_answers succeeds]
              exact isQuote
  | sampledBind stored intent reading => cases reading <;> cases succeeds
  | @bound stored intent now _ _ result replied ran =>
      rcases commit_cases ran with ⟨_, rfl, committed⟩ | ⟨error, rfl, _, _⟩
      · rcases (found_of_bind (withUnit_eq_ok.mp committed)).1 with
          ⟨found, isFound, foundId, foundReady⟩
        have sameRow := db.xmrQuoteRequests.row_eq_of_key isFound member
          (foundId.trans (sound.2.1.id_eq.trans sameId.symm))
        subst sameRow
        have isQuote : stored = quote := StoredXmrQuote.eq_of_documentJson
          (QuoteStatus.ready.inj (foundReady.symm.trans isReady))
        cases replied with
        | false => cases succeeds
        | true =>
            cases succeeds
            rw [isQuote] at sound
            exact ⟨sound.2.2, holds.2.1 ▸ sound.2.1⟩
      · cases succeeds
  | storeFailed fails => cases pc <;> cases fails <;> cases succeeds
  | dropped => cases succeeds

omit [QuoteJson] [SerdeJson] in
theorem refuses_other (member : row ∈ db.xmrQuoteRequests.rows) {identity : String}
    (other : row.identityJson ≠ identity) (now : Int) :
    readXmrQuote row.id identity now db = .error .differentInputs ∧
      ∀ request policy, request.id = row.id →
        reserveXmrQuote request identity policy now db = .error .differentInputs ∨
          reserveXmrQuote request identity policy now db = .error .clockReconciliation := by
  have found : findQuoteRequest row.id db = some row := findQuoteRequest_eq_some.mpr ⟨member, rfl⟩
  constructor
  · rw [readXmrQuote, found]
    exact storedResult_of_different other
  · intro request policy sameId
    cases isClocked : checkClock now db with
    | error error =>
        refine .inr ?_
        have isRegression : error = .clockReconciliation := by
          unfold checkClock ensure at isClocked
          split at isClocked <;> cases isClocked
          rfl
        rw [reserveXmrQuote, isClocked, isRegression]
        rfl
    | ok clocked =>
        refine .inl ?_
        have ticked := (checkClock_eq_ok.mp isClocked).2.2
        have stillFound : findQuoteRequest request.id clocked = some row := by
          rw [ticked, sameId]
          exact found
        simp only [reserveXmrQuote, isClocked, ok_bind, stillFound,
          storedResult_of_different other]
        rfl

end Answers

/-! ## Runs -/

section Runs

variable [QuoteJson] [SerdeJson] {labels earlier later : List QuoteLabel}
  {system middle : QuoteSystem}

structure QuoteSplit (labels : List QuoteLabel) (system : QuoteSystem)
    (earlier : List QuoteLabel) (middle : QuoteSystem) (later : List QuoteLabel) : Prop where
  parts : labels = earlier ++ later
  before : QuoteRun .initial earlier middle
  after : QuoteRun middle later system

theorem QuoteSplit.history (split : QuoteSplit labels system earlier middle later) :
    QuoteHistory middle.db (later.map QuoteLabel.change) system.db :=
  QuoteRun.changes split.after (CallsSound.ofInitial.of_run split.before)

/-- What a request goes through, and what is answered about it. -/
structure SettlesOneWay (labels : List QuoteLabel) (system : QuoteSystem) : Prop where
  moves : ∀ earlier middle later, QuoteSplit labels system earlier middle later →
    ∀ row ∈ middle.db.xmrQuoteRequests.rows, ∃ status,
      { row with status := status } ∈ system.db.xmrQuoteRequests.rows ∧
        (status = row.status ∨ row.status = .reserved ∧ status ≠ .reserved)
  repeats : ∀ earlier middle later, QuoteSplit labels system earlier middle later →
    ∀ row ∈ middle.db.xmrQuoteRequests.rows, ∀ documentJson, row.status = .ready documentJson →
      ∃ quote, quote.documentJson = documentJson ∧
        ∀ index caller event answer,
          .acted index caller event (some (.ok answer)) ∈ later → caller.request.id = row.id →
            Answers quote answer ∧ caller.Identifies row.identityJson
  refuses : ∀ row ∈ system.db.xmrQuoteRequests.rows, ∀ identity, row.identityJson ≠ identity →
    ∀ now, readXmrQuote row.id identity now system.db = .error .differentInputs ∧
      ∀ request policy, request.id = row.id →
        reserveXmrQuote request identity policy now system.db = .error .differentInputs ∨
          reserveXmrQuote request identity policy now system.db = .error .clockReconciliation
  failedStays : ∀ earlier middle later, QuoteSplit labels system earlier middle later →
    ∀ row ∈ middle.db.xmrQuoteRequests.rows, row.status = .failed → ¬ Ready row.id system.db
  contactedOnce : ∀ id, contactsOf id labels ≤ 1

/-- A request whose reservation has expired does not become ready. -/
def ExpiredStays (labels : List QuoteLabel) (system : QuoteSystem) : Prop :=
  ∀ earlier middle later, QuoteSplit labels system earlier middle later →
    ∀ id, Expired id earlier → ¬ Ready id middle.db → ¬ Ready id system.db

/-- No complete transaction that its reservation and its own reading let through starts
after the reservation has expired. -/
def CompletesInTime (labels : List QuoteLabel) (system : QuoteSystem) : Prop :=
  ∀ earlier source label later, QuoteSplit labels system earlier source (label :: later) →
    ∀ quote now row, label.completing = some (quote, now) →
      Completable quote now row source.db → ¬ Expired row.id earlier

theorem QuoteHistory.moves {before after : QuoteDb} {changes : List QuoteChange}
    (history : QuoteHistory before changes after) {row : QuoteRequestRow}
    (member : row ∈ before.xmrQuoteRequests.rows) :
    ∃ status, { row with status := status } ∈ after.xmrQuoteRequests.rows ∧
      (status = row.status ∨ row.status = .reserved ∧ status ≠ .reserved) := by
  induction history generalizing row with
  | nil => exact ⟨row.status, member, .inl rfl⟩
  | @cons _ _ _ change _ step rest induction =>
      have developed := step.develop_mem member
      rcases change.develop_cases row with kept | ⟨isReserved, status, settled, isSettled⟩
      · rw [kept] at developed
        exact induction developed
      · rw [isSettled] at developed
        have stays := QuoteHistory.settled_mem rest developed settled
        exact ⟨status, stays, .inr ⟨isReserved, settled⟩⟩

theorem QuoteSplit.repeats (split : QuoteSplit labels system earlier middle later)
    {row : QuoteRequestRow} (member : row ∈ middle.db.xmrQuoteRequests.rows) {quote : StoredXmrQuote}
    (holds : RowHolds row quote) {index : Nat} {caller : QuoteCaller} {event : QuoteEvent}
    {answer : QuoteAnswer} (answered : .acted index caller event (some (.ok answer)) ∈ later)
    (sameId : caller.request.id = row.id) :
    Answers quote answer ∧ caller.Identifies row.identityJson := by
  rcases List.append_of_mem answered with ⟨left, right, isLater⟩
  have run := split.after
  rw [isLater] at run
  rcases run.at_split with ⟨source, target, first, step, _⟩
  have sound := CallsSound.ofInitial.of_run split.before
  have still : row ∈ source.db.xmrQuoteRequests.rows := by
    apply QuoteHistory.settled_mem (QuoteRun.changes first sound) member
    rw [holds.2.2]
    exact QuoteStatus.noConfusion
  generalize isResponse : some (Except.ok answer) = response at step
  cases step with
  | acts running acts =>
      exact acts.answers (sound.of_run first _ _ running) still sameId.symm holds isResponse.symm

omit [SerdeJson] in
theorem QuoteLabel.completing_of_completion {label : QuoteLabel} {quote : StoredXmrQuote}
    (isCompletion : label.completion = some quote) :
    ∃ now, label.completing = some (quote, now) := by
  cases label with
  | received => cases isCompletion
  | ledger => cases isCompletion
  | acted _ caller event _ =>
      revert isCompletion
      simp only [QuoteLabel.completion, QuoteLabel.change]
      fun_cases QuoteEvent.change <;> intro isCompletion <;> cases isCompletion
      exact ⟨_, rfl⟩

omit [SerdeJson] in
/-- A complete transaction makes its request ready exactly if the store lets it through. -/
theorem QuoteActs.completes_iff {caller : QuoteCaller} {pc : QuotePc} {db after : QuoteDb}
    {event : QuoteEvent} {next : QuoteNext} (acts : QuoteActs caller pc db event next after)
    (sound : pc.Sound caller) {index : Nat} {response : Option QuoteResponse}
    {quote : StoredXmrQuote} {now : Int}
    (completing : (QuoteLabel.acted index caller event response).completing = some (quote, now)) :
    (event.change caller).completion = some quote ↔ ∃ row, Completable quote now row db := by
  cases acts with
  | completed replied ran =>
      cases completing
      rcases sound with ⟨_, identifies, rfl⟩
      have sameId : quote.id = caller.request.id := identifies.id_eq
      rw [← sameId] at ran
      rw [← completeXmrQuote_completes]
      rcases commit_cases ran with ⟨_, rfl, committed⟩ | ⟨error, rfl, failed, _⟩
      · exact iff_of_true rfl ⟨_, withUnit_eq_ok.mp committed⟩
      · apply iff_of_false
        · intro isCompletion
          cases isCompletion
        · rintro ⟨completed, succeeds⟩
          rw [withUnit_eq_error.mp failed] at succeeds
          cases succeeds
  | _ => cases completing

theorem QuoteStep.completes_iff {before after : QuoteSystem} {label : QuoteLabel}
    (step : QuoteStep before label after) (sound : CallsSound before) {quote : StoredXmrQuote}
    {now : Int} (completing : label.completing = some (quote, now)) :
    label.completion = some quote ↔ ∃ row, Completable quote now row before.db := by
  cases step with
  | acts running acts => exact acts.completes_iff (sound _ _ running) completing
  | _ => cases completing

/-- Only a completion after the end of a reservation takes an expired request back. -/
theorem expiredStays_of_inTime (inTime : CompletesInTime labels system) :
    ExpiredStays labels system := by
  intro earlier middle later split id expired notReady ready
  rcases @Execution.Run.established _ _ QuoteStep _ _ _
      (fun system => Ready id system.db) split.after notReady ready with
    ⟨left, label, right, source, target, isLater, first, step, rest, was, is⟩
  have sound := (CallsSound.ofInitial.of_run split.before).of_run first
  rcases (step.changes sound).readies was is with ⟨quote, isCompletion, sameId⟩
  rcases QuoteLabel.completing_of_completion isCompletion with ⟨now, completing⟩
  rcases (step.completes_iff sound completing).mp isCompletion with ⟨row, completable⟩
  have atStep : QuoteSplit labels system (earlier ++ left) source (label :: right) := by
    refine ⟨?_, split.before.append first, .cons step rest⟩
    rw [split.parts, isLater, List.append_assoc]
  apply inTime _ _ _ _ atStep quote now row completing completable
  rw [completable.sameId, sameId]
  exact expired.append left

/-- A completion after the end of a reservation does take an expired request back. -/
theorem inTime_of_expiredStays (expiredStays : ExpiredStays labels system) :
    CompletesInTime labels system := by
  intro earlier source label later split quote now row completing completable expired
  have sound := CallsSound.ofInitial.of_run split.before
  rcases Execution.Run.cons_iff.mp split.after with ⟨target, step, rest⟩
  have isCompletion := (step.completes_iff sound completing).mpr ⟨row, completable⟩
  rcases (step.changes sound).completes_row isCompletion with ⟨settled, _, rowId, _, isReady⟩
  have notReady : ¬ Ready row.id source.db := by
    rintro ⟨other, isOther, otherId, documentJson, otherReady⟩
    rw [source.db.xmrQuoteRequests.row_eq_of_key isOther completable.member otherId,
      completable.isReserved] at otherReady
    cases otherReady
  apply expiredStays earlier source (label :: later) split row.id expired notReady
  have readyAtEnd := QuoteHistory.settled_mem (QuoteRun.changes rest (sound.of_step step)) isReady
    QuoteStatus.noConfusion
  exact ⟨_, readyAtEnd, rowId.trans completable.sameId.symm, quote.documentJson, rfl⟩

/-- A request moves once, to what it stays, and its source is contacted once. It is
final when its reservation ends exactly if no completion comes after that. -/
theorem quote_requests_settle_once (run : QuoteRun .initial labels system) :
    SettlesOneWay labels system ∧
      (ExpiredStays labels system ↔ CompletesInTime labels system) := by
  refine ⟨?_, inTime_of_expiredStays, expiredStays_of_inTime⟩
  constructor
  · exact fun earlier middle later split row member => split.history.moves member
  · intro earlier middle later split row member documentJson isReady
    rcases (ReadyRows.of_run split.before).completedOf row member documentJson isReady with
      ⟨quote, _, holds⟩
    refine ⟨quote, QuoteStatus.ready.inj (holds.2.2.symm.trans isReady), ?_⟩
    exact fun index caller event answer answered sameId =>
      split.repeats member holds answered sameId
  · exact fun row member identity other now => refuses_other member other now
  · intro earlier middle later split row member isFailed ready
    rcases ready with ⟨other, isOther, sameId, documentJson, isReady⟩
    have still := QuoteHistory.settled_mem split.history member
      (isFailed ▸ QuoteStatus.noConfusion)
    have sameRow := system.db.xmrQuoteRequests.row_eq_of_key isOther still sameId
    rw [sameRow, isFailed] at isReady
    cases isReady
  · exact (Owners.of_run run).once

end Runs

/-! ## A request in time -/

theorem eq_of_only {α : Type*} {property : α → Prop} {before after earlier later : List α}
    {element other : α} (equal : before ++ element :: after = earlier ++ other :: later)
    (holds : property other) (noneBefore : ∀ element ∈ before, ¬ property element)
    (noneAfter : ∀ element ∈ after, ¬ property element) :
    earlier = before ∧ other = element ∧ later = after := by
  induction before generalizing earlier with
  | nil =>
      cases earlier with
      | nil =>
          cases equal
          exact ⟨rfl, rfl, rfl⟩
      | cons first rest =>
          cases equal
          exact absurd holds (noneAfter other (List.mem_append_right _ List.mem_cons_self))
  | cons first rest induction =>
      cases earlier with
      | nil =>
          cases equal
          exact absurd holds (noneBefore other List.mem_cons_self)
      | cons head tail =>
          rcases List.cons.inj equal with ⟨sameHead, sameTail⟩
          rcases induction sameTail (fun element member =>
            noneBefore element (List.mem_cons_of_mem _ member)) with ⟨same, isElement, isAfter⟩
          exact ⟨by rw [sameHead, same], isElement, isAfter⟩

section InTime

variable [QuoteJson] [SerdeJson] {before after : List QuoteLabel}

/-- A create call that reads one time throughout completes in time, among calls that
neither reserve before it nor complete. -/
theorem createLabels_inTime {system : QuoteSystem} {index : Nat} {caller : QuoteCaller}
    {identity : String} {now : Int} {evidence : RateEvidence} {stored : StoredXmrQuote}
    (noneBefore : ∀ label ∈ before, label.completing = none ∧ label.change.added = none)
    (noneAfter : ∀ label ∈ after, label.completing = none) :
    CompletesInTime (before ++ (createLabels index caller identity now evidence stored ++ after))
      system := by
  intro earlier source label later split quote issued row completing completable expired
  let reserves : QuoteLabel := .acted index caller (.reserved identity now true (.ok none)) none
  let issuing := issuingLabels index caller now now evidence
  have beginning : ∀ label ∈ beginLabels index caller now,
      label.completing = none ∧ label.change.added = none := by
    simp [beginLabels, QuoteLabel.completing, QuoteLabel.change, QuoteEvent.change,
      QuoteChange.added]
  have continuing : ∀ label ∈ issuing, label.completing = none ∧ label.change.added = none := by
    simp [issuing, issuingLabels, QuoteLabel.completing, QuoteLabel.change, QuoteEvent.change,
      QuoteChange.added]
  have isPast : earlier = before ++ (beginLabels index caller now ++ reserves :: issuing) := by
    have parts : (before ++ (beginLabels index caller now ++ reserves :: issuing)) ++
        completedLabel index caller now stored :: after = earlier ++ label :: later := by
      rw [← split.parts]
      simp [createLabels, reservingLabels, reserves, issuing]
    refine (@eq_of_only _ (fun label : QuoteLabel => label.completing ≠ none) _ _ _ _ _ _ parts ?_ ?_ ?_).1
    · simp [completing]
    · intro label member
      rw [not_not]
      simp only [List.mem_append, List.mem_cons] at member
      rcases member with old | isBegin | rfl | isIssuing
      · exact (noneBefore label old).1
      · exact (beginning label isBegin).1
      · rfl
      · exact (continuing label isIssuing).1
    · exact fun label member => not_not.mpr (noneAfter label member)
  rcases expired with ⟨first, reserving, rest, reserved, reading, parts, isAdded, _, isReading, late⟩
  rw [isPast, ← List.append_assoc] at parts
  have place := @eq_of_only _ (fun label : QuoteLabel => label.change.added ≠ none) _ _ _ _ _ _ parts
    (by simp [isAdded]) (by
      intro label member
      rw [not_not]
      rcases List.mem_append.mp member with old | isBegin
      · exact (noneBefore label old).2
      · exact (beginning label isBegin).2)
    fun label member => not_not.mpr (continuing label member).2
  rcases place with ⟨_, rfl, rfl⟩
  cases isAdded
  have isNow : now = reading := by
    simpa [issuing, readings, issuingLabels, QuoteLabel.reading, QuoteEvent.reading]
      using isReading
  have expires : now + reservationSeconds ≤ reading := late
  rw [← isNow, reservationSeconds] at expires
  omega

end InTime

/-- An unknown request is looked up at 5000. Then it gets its quote at 1000, and a retry
and a lookup after its reservation are answered with it. -/
theorem quote_requests_settle_once_example :
    letI := exampleQuoteJson
    letI := exampleJson
    ∃ labels system stored, QuoteRun .initial labels system ∧
      .acted 0 (exampleLookup ⟨7⟩ 'a') (.read 5000 (.error .unknownRequest))
        (some (.error .unknownRequest)) ∈ labels ∧
      .acted 2 (exampleCreator ⟨7⟩ 'a') (.reserved (exampleIdentityJson ⟨7⟩ 'a') 2000 true
        (.ok (some stored.documentJson))) (some (.ok (.quote stored))) ∈ labels ∧
      .acted 3 (exampleLookup ⟨7⟩ 'a') (.read 2001 (.ok stored.documentJson))
        (some (.ok (.quote stored))) ∈ labels ∧
      SettlesOneWay labels system ∧ ExpiredStays labels system := by
  let := exampleQuoteJson
  let := exampleJson
  rcases example_creates [⟨exampleLookup ⟨7⟩ 'a', .done⟩] with ⟨stored, db, created, issues, _⟩
  rcases issues.member with ⟨row, member, holds, requested⟩
  have unknown := @unread_run _ exampleJson .fresh [] (exampleLookup ⟨7⟩ 'a') _ 5000
    .unknownRequest QuoteOperation.noConfusion exampleIdentity_new.1 rfl
  have retried := @replayed_run _ exampleJson db
    [⟨exampleLookup ⟨7⟩ 'a', .done⟩, ⟨exampleCreator ⟨7⟩ 'a', .done⟩] (exampleCreator ⟨7⟩ 'a')
    _ row stored 2000 rfl exampleIdentity_new.1 (issues.ticks (by decide) (by decide)) member
    holds issues.sameId issues.sameIdentity (by rw [requested]; decide)
  have looked := @read_run _ exampleJson (db.tick 2000)
    [⟨exampleLookup ⟨7⟩ 'a', .done⟩, ⟨exampleCreator ⟨7⟩ 'a', .done⟩,
      ⟨exampleCreator ⟨7⟩ 'a', .done⟩] (exampleLookup ⟨7⟩ 'a') _ row stored 2001 rfl
    exampleIdentity_new.1 member holds issues.sameId issues.sameIdentity
    (by rw [requested]; decide)
  have run : QuoteRun .initial _ _ := unknown.append (created.append (retried.append looked))
  have settles := @quote_requests_settle_once exampleQuoteJson exampleJson _ _ run
  refine ⟨_, _, stored, run, ?_, ?_, ?_, settles.1, settles.2.mpr ?_⟩
  · apply List.mem_append_left
    exact List.mem_append_right _ List.mem_cons_self
  · apply List.mem_append_right
    apply List.mem_append_right
    apply List.mem_append_left
    exact List.mem_append_right _ List.mem_cons_self
  · apply List.mem_append_right
    apply List.mem_append_right
    apply List.mem_append_right
    exact List.mem_append_right _ List.mem_cons_self
  · apply createLabels_inTime
    · simp [answeredLabels, beginLabels, QuoteLabel.completing, QuoteLabel.change,
        QuoteEvent.change, QuoteChange.added]
    · simp [answeredLabels, beginLabels, QuoteLabel.completing]

/-! ## A reservation that is taken back -/

theorem readXmrQuote_expired {row : QuoteRequestRow} {db : QuoteDb} {now : Int}
    (member : row ∈ db.xmrQuoteRequests.rows) (isReserved : row.status = .reserved)
    (requested : row.requestedAt ≤ now) (expired : row.reservationUntil ≤ now) :
    readXmrQuote row.id row.identityJson now db = .error .failedOrExpired := by
  have found : findQuoteRequest row.id db = some row := findQuoteRequest_eq_some.mpr ⟨member, rfl⟩
  rw [readXmrQuote, found, require_some, ok_bind, storedResult, if_neg (not_not.mpr rfl),
    if_neg (Int.not_lt.mpr requested), isReserved]
  exact if_neg (Int.not_lt.mpr expired)

/-- A lookup at 1030 is told that the request has expired. The completion that read the
clock at 1000 commits after it. -/
theorem quote_expiry_taken_back :
    letI := exampleQuoteJson
    letI := exampleJson
    ∃ earlier later middle system, QuoteSplit (earlier ++ later) system earlier middle later ∧
      (readings (earlier ++ later)).Pairwise (· ≤ ·) ∧
      .acted 1 (exampleLookup ⟨7⟩ 'a') (.read 1030 (.error .failedOrExpired))
        (some (.error .failedOrExpired)) ∈ earlier ∧
      Ready ⟨7⟩ system.db ∧ ¬ ExpiredStays (earlier ++ later) system := by
  let := exampleQuoteJson
  let := exampleJson
  rcases exampleRun_prices with ⟨stored, fresh, pricing, sameId, sameIdentity, isPriced⟩
  let identity := exampleIdentityJson ⟨7⟩ 'a'
  let held := reservation (exampleRequest ⟨7⟩ 'a') identity 1000
  let db : QuoteDb := { QuoteDb.fresh with
    xmrQuoteClock := 1000
    xmrQuoteRequests := QuoteDb.fresh.xmrQuoteRequests.insert held fresh }
  have member : held ∈ db.xmrQuoteRequests.rows := Table.mem_rows_insert_new fresh
  have expires : readXmrQuote held.id held.identityJson 1030 db = .error .failedOrExpired :=
    readXmrQuote_expired member rfl (by decide) (by decide)
  let calls : List QuoteCall := [⟨exampleCreator ⟨7⟩ 'a', .complete identity stored 1000⟩,
    ⟨exampleLookup ⟨7⟩ 'a', .done⟩]
  have looked := @unread_run _ exampleJson db
    [⟨exampleCreator ⟨7⟩ 'a', .complete identity stored 1000⟩] (exampleLookup ⟨7⟩ 'a') _ 1030 _
    QuoteOperation.noConfusion exampleIdentity_new.1 expires
  have completable : Completable stored 1000 held db := by
    constructor
    · exact ⟨Int.le_refl 1000, by decide⟩
    · exact member
    · exact sameId.symm
    · rfl
    · exact sameIdentity.symm
    · decide
    · rw [isPriced, examplePrice_fields.2.1]
    · simp [AcceptsRate, db, QuoteDb.fresh]
  rcases @completing_run _ exampleJson db calls (exampleCreator ⟨7⟩ 'a') _ 0 1000 held stored rfl
    sameId sameIdentity completable with ⟨marked, marks, completing⟩
  have split : QuoteSplit _ _ _ _ _ := ⟨rfl, pricing.append looked, completing⟩
  have notReady : ¬ Ready ⟨7⟩ db := by
    rintro ⟨row, isRow, sameRow, documentJson, isReady⟩
    rw [db.xmrQuoteRequests.row_eq_of_key isRow member sameRow] at isReady
    cases isReady
  have ready : Ready ⟨7⟩ (settleQuoteRequest stored.id (.ready stored.documentJson) marked) := by
    refine ⟨{ held with status := .ready stored.documentJson }, ?_, rfl, stored.documentJson, rfl⟩
    rw [rows_settleQuoteRequest, (markRate_cases marks).rows_eq,
      ← QuoteRequestRow.settle_of_reserved sameId.symm rfl]
    exact List.mem_map_of_mem member
  have inOrder : ([1000, 1000, 1030] : List Int).Pairwise (· ≤ ·) := by decide
  refine ⟨_, _, _, _, split, inOrder, ?_, ready, fun stays => ?_⟩
  · apply List.mem_append_right
    exact List.mem_append_right _ List.mem_cons_self
  · apply stays _ _ _ split ⟨7⟩ ?_ notReady ready
    refine ⟨beginLabels 0 (exampleCreator ⟨7⟩ 'a') 1000, _, _, held, 1030, rfl, rfl, rfl, ?_,
      by decide⟩
    exact List.mem_cons_of_mem _ List.mem_cons_self

end LightningGoats
