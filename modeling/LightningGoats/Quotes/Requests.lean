import LightningGoats.Quotes.Calls

/-! # How the request rows develop

A row is added as a reservation, and is settled at most once. The ready rows
are the quotes that were completed, with the documents they were completed with.
-/

namespace LightningGoats

open Outcome Relational

/-! ## Settling -/

@[simp] theorem settleQuoteRequest_xmrQuoteClock (id : Uuid) (status : QuoteStatus)
    (db : QuoteDb) : (settleQuoteRequest id status db).xmrQuoteClock = db.xmrQuoteClock := rfl

@[simp] theorem settleQuoteRequest_xmrRateWatermarks (id : Uuid) (status : QuoteStatus)
    (db : QuoteDb) :
    (settleQuoteRequest id status db).xmrRateWatermarks = db.xmrRateWatermarks := rfl

@[simp] theorem settleQuoteRequest_xmrQuoteBindings (id : Uuid) (status : QuoteStatus)
    (db : QuoteDb) :
    (settleQuoteRequest id status db).xmrQuoteBindings = db.xmrQuoteBindings := rfl

@[simp] theorem settleQuoteRequest_ledger (id : Uuid) (status : QuoteStatus) (db : QuoteDb) :
    (settleQuoteRequest id status db).ledger = db.ledger := rfl

theorem QuoteRequestRow.settle_of_settled {id : Uuid} {status : QuoteStatus}
    {row : QuoteRequestRow} (settled : row.status ≠ .reserved) : row.settle id status = row :=
  if_neg fun holds => settled holds.2

theorem QuoteRequestRow.settle_of_other {id : Uuid} {status : QuoteStatus}
    {row : QuoteRequestRow} (other : row.id ≠ id) : row.settle id status = row :=
  if_neg fun holds => other holds.1

theorem QuoteRequestRow.settle_of_reserved {id : Uuid} {status : QuoteStatus}
    {row : QuoteRequestRow} (sameId : row.id = id) (isReserved : row.status = .reserved) :
    row.settle id status = { row with status := status } :=
  if_pos ⟨sameId, isReserved⟩

theorem QuoteRequestRow.settle_cases (id : Uuid) (status : QuoteStatus)
    (row : QuoteRequestRow) :
    row.settle id status = row ∨
      (row.id = id ∧ row.status = .reserved ∧
        row.settle id status = { row with status := status }) := by
  by_cases settles : row.id = id ∧ row.status = .reserved
  · exact .inr ⟨settles.1, settles.2, settle_of_reserved settles.1 settles.2⟩
  · exact .inl (if_neg settles)

theorem MarksRate.rows_eq {rate : XmrBtcRate} {before after : QuoteDb}
    (marks : MarksRate rate before after) :
    after.xmrQuoteRequests.rows = before.xmrQuoteRequests.rows := by
  rw [marks.eq_with]

theorem MarksRate.clock_eq {rate : XmrBtcRate} {before after : QuoteDb}
    (marks : MarksRate rate before after) : after.xmrQuoteClock = before.xmrQuoteClock := by
  rw [marks.eq_with]

/-! ## Rows -/

section Changes

variable [QuoteJson]

def QuoteChange.develop : QuoteChange → QuoteRequestRow → QuoteRequestRow
  | completes quote _ => QuoteRequestRow.settle quote.id (.ready quote.documentJson)
  | fails id => QuoteRequestRow.settle id .failed
  | _ => id

def QuoteChange.added : QuoteChange → Option QuoteRequestRow
  | reserves request identity _ now => some (reservation request identity now)
  | _ => .none

def QuoteChange.completion : QuoteChange → Option StoredXmrQuote
  | completes quote _ => some quote
  | _ => .none

def QuoteLabel.completion (label : QuoteLabel) : Option StoredXmrQuote :=
  label.change.completion

@[simp] theorem QuoteChange.develop_id (change : QuoteChange) (row : QuoteRequestRow) :
    (change.develop row).id = row.id := by
  cases change <;> simp [develop]

@[simp] theorem QuoteChange.develop_identityJson (change : QuoteChange)
    (row : QuoteRequestRow) : (change.develop row).identityJson = row.identityJson := by
  cases change <;> simp [develop]

@[simp] theorem QuoteChange.develop_requestedAt (change : QuoteChange)
    (row : QuoteRequestRow) : (change.develop row).requestedAt = row.requestedAt := by
  cases change <;> simp [develop]

/-- A settled row never changes again. -/
theorem QuoteChange.develop_settled (change : QuoteChange) {row : QuoteRequestRow}
    (settled : row.status ≠ .reserved) : change.develop row = row := by
  cases change with
  | completes => exact QuoteRequestRow.settle_of_settled settled
  | fails => exact QuoteRequestRow.settle_of_settled settled
  | _ => rfl

variable [SerdeJson] {before after : QuoteDb} {change : QuoteChange}

theorem QuoteChanges.eq_of_none (changes : QuoteChanges before .none after) :
    after = before := by
  cases changes
  rfl

theorem QuoteChanges.rows_eq (changes : QuoteChanges before change after) :
    after.xmrQuoteRequests.rows =
      before.xmrQuoteRequests.rows.map change.develop ++ change.added.toList := by
  cases changes with
  | reserves => simp [QuoteChange.develop, QuoteChange.added]
  | completes _ _ _ _ _ _ _ marks =>
      simp [QuoteChange.develop, QuoteChange.added, marks.rows_eq]
  | fails => simp [QuoteChange.develop, QuoteChange.added]
  | _ => simp [QuoteChange.develop, QuoteChange.added]

theorem QuoteChanges.mem_rows (changes : QuoteChanges before change after)
    {row : QuoteRequestRow} (member : row ∈ after.xmrQuoteRequests.rows) :
    (∃ old ∈ before.xmrQuoteRequests.rows, row = change.develop old) ∨
      change.added = some row := by
  rw [changes.rows_eq] at member
  rcases List.mem_append.mp member with old | isNew
  · rcases List.mem_map.mp old with ⟨earlier, isEarlier, same⟩
    exact .inl ⟨earlier, isEarlier, same.symm⟩
  · exact .inr (Option.mem_toList.mp isNew)

theorem QuoteChanges.develop_mem (changes : QuoteChanges before change after)
    {row : QuoteRequestRow} (member : row ∈ before.xmrQuoteRequests.rows) :
    change.develop row ∈ after.xmrQuoteRequests.rows := by
  rw [changes.rows_eq]
  exact List.mem_append_left _ (List.mem_map_of_mem member)

theorem QuoteChanges.settled_mem (changes : QuoteChanges before change after)
    {row : QuoteRequestRow} (member : row ∈ before.xmrQuoteRequests.rows)
    (settled : row.status ≠ .reserved) : row ∈ after.xmrQuoteRequests.rows := by
  have developed := changes.develop_mem member
  rwa [change.develop_settled settled] at developed

theorem QuoteHistory.settled_mem {changes : List QuoteChange}
    (history : QuoteHistory before changes after) {row : QuoteRequestRow}
    (member : row ∈ before.xmrQuoteRequests.rows) (settled : row.status ≠ .reserved) :
    row ∈ after.xmrQuoteRequests.rows := by
  induction history with
  | nil => exact member
  | cons step _ induction => exact induction (step.settled_mem member settled)

theorem QuoteChanges.clock_mono (changes : QuoteChanges before change after) :
    before.xmrQuoteClock ≤ after.xmrQuoteClock := by
  cases changes with
  | replays ticks => exact ticks.notBehind
  | reserves ticks => exact ticks.notBehind
  | completes ticks _ _ _ _ _ _ marks =>
      rw [settleQuoteRequest_xmrQuoteClock, marks.clock_eq]
      exact ticks.notBehind
  | binds ticks => exact ticks.notBehind
  | rebinds ticks => exact ticks.notBehind
  | _ => exact Int.le_refl _

theorem QuoteHistory.clock_mono {changes : List QuoteChange}
    (history : QuoteHistory before changes after) :
    before.xmrQuoteClock ≤ after.xmrQuoteClock := by
  induction history with
  | nil => exact Int.le_refl _
  | cons step _ induction => exact Int.le_trans step.clock_mono induction

/-! ## Ready rows are completed quotes -/

def RowHolds (row : QuoteRequestRow) (quote : StoredXmrQuote) : Prop :=
  row.id = quote.id ∧ row.identityJson = quote.identityJson ∧
    row.status = .ready quote.documentJson

structure ReadyRows (completed : List StoredXmrQuote) (db : QuoteDb) : Prop where
  completedOf : ∀ row ∈ db.xmrQuoteRequests.rows, ∀ documentJson,
    row.status = .ready documentJson → ∃ quote ∈ completed, RowHolds row quote
  readyOf : ∀ quote ∈ completed, ∃ row ∈ db.xmrQuoteRequests.rows, RowHolds row quote

theorem ReadyRows.of_changes {completed : List StoredXmrQuote}
    (readyRows : ReadyRows completed before) (changes : QuoteChanges before change after) :
    ReadyRows (completed ++ change.completion.toList) after where
  completedOf := by
    intro row member documentJson isReady
    have kept : ∀ old ∈ before.xmrQuoteRequests.rows, row = old →
        ∃ quote ∈ completed ++ change.completion.toList, RowHolds row quote := by
      rintro old isOld rfl
      rcases readyRows.completedOf row isOld documentJson isReady with ⟨quote, isCompleted, holds⟩
      exact ⟨quote, List.mem_append_left _ isCompleted, holds⟩
    rcases changes.mem_rows member with ⟨old, isOld, rfl⟩ | isNew
    · generalize isDeveloped : change.develop old = row at *
      cases changes with
      | @completes _ _ reserved quote _ _ isRow sameId isReserved sameIdentity =>
          rcases old.settle_cases quote.id (.ready quote.documentJson) with
            unchanged | ⟨isId, _, settled⟩
          · exact kept old isOld (isDeveloped.symm.trans unchanged)
          · have sameRow : old = reserved :=
              before.xmrQuoteRequests.row_eq_of_key isOld isRow (isId.trans sameId.symm)
            have isSettled := isDeveloped.symm.trans settled
            subst isSettled sameRow
            exact ⟨quote, List.mem_append_right _ List.mem_cons_self, isId, sameIdentity, rfl⟩
      | fails id =>
          rcases old.settle_cases id .failed with unchanged | ⟨_, _, settled⟩
          · exact kept old isOld (isDeveloped.symm.trans unchanged)
          · rw [isDeveloped.symm.trans settled] at isReady
            cases isReady
      | _ => exact kept old isOld isDeveloped.symm
    · cases changes <;> cases isNew
      cases isReady
  readyOf := by
    intro quote isCompleted
    rcases List.mem_append.mp isCompleted with earlier | isNew
    · rcases readyRows.readyOf quote earlier with ⟨row, member, holds⟩
      have settled : row.status ≠ .reserved := by simp [holds.2.2]
      exact ⟨row, changes.settled_mem member settled, holds⟩
    · cases changes with
      | @completes _ _ row _ _ _ member sameId isReserved sameIdentity _ _ marks =>
          rw [QuoteChange.completion, Option.toList_some, List.mem_singleton] at isNew
          subst isNew
          refine ⟨row.settle quote.id (.ready quote.documentJson), ?_, ?_⟩
          · rw [rows_settleQuoteRequest, marks.rows_eq]
            exact List.mem_map_of_mem member
          · rw [QuoteRequestRow.settle_of_reserved sameId isReserved]
            exact ⟨sameId, sameIdentity, rfl⟩
      | _ => cases isNew

theorem ReadyRows.of_history {completed : List StoredXmrQuote} {changes : List QuoteChange}
    (readyRows : ReadyRows completed before) (history : QuoteHistory before changes after) :
    ReadyRows (completed ++ changes.filterMap QuoteChange.completion) after := by
  induction history generalizing completed with
  | nil => simpa using readyRows
  | @cons _ _ _ change changes step _ induction =>
      have later := induction (readyRows.of_changes step)
      rw [List.append_assoc] at later
      rw [List.filterMap_cons]
      cases isCompletion : change.completion <;> simpa [isCompletion] using later

end Changes

theorem ReadyRows.ofFresh [QuoteJson] : ReadyRows [] .fresh where
  completedOf := by simp [QuoteDb.fresh]
  readyOf := by simp

def completions [QuoteJson] (labels : List QuoteLabel) : List StoredXmrQuote :=
  labels.filterMap QuoteLabel.completion

theorem ReadyRows.of_run [QuoteJson] [SerdeJson] {labels : List QuoteLabel} {system : QuoteSystem}
    (run : QuoteRun .initial labels system) : ReadyRows (completions labels) system.db := by
  have ready := ReadyRows.ofFresh.of_history run.history
  rwa [List.nil_append, List.filterMap_map] at ready

end LightningGoats
