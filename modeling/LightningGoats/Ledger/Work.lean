import LightningGoats.Ledger.Requests
import LightningGoats.Ledger.Deliveries

/-! # Durable work

Work enters the inbox once under its key and stays there with its data. It is put
off, set aside or marked as done, never removed.
-/

namespace LightningGoats

open Outcome Relational

/-! ## Calls -/

def pendingWork (key : String) (event : StrikeCompletedReceiveEvent) (now : Int) : InboxRow where
  workKey := key
  eventId := event.eventId
  receiveRequestId := event.receiveRequestId
  receiveId := event.receiveId
  status := .pending
  attempts := 0
  nextAttempt := now
  createdAt := now

def pendingCount (db : Db) : Nat :=
  db.strikeInbox.rows.countP fun row => row.status = .pending

def LedgerCall.enqueues : LedgerCall → Option (String × StrikeCompletedReceiveEvent)
  | enqueueStrikeEvent event => some (webhookKey event.eventId, event)
  | enqueueStrikeWork key event => some (key, event)
  | _ => none

inductive StrikeChange (now : Int) : LedgerCall → Db → Db → Prop
  | requests {request : StoredStrikeReceiveRequest} {before after : Db}
      (requests : Requests request before after) :
      StrikeChange now (.recordStrikeReceiveRequest request) before after
  | enqueues {call : LedgerCall} {key : String} {event : StrikeCompletedReceiveEvent} {db : Db}
      (enqueues : call.enqueues = some (key, event)) (room : pendingCount db < inboxCapacity)
      (fresh : db.strikeInbox.Fresh (pendingWork key event now)) :
      StrikeChange now call db { db with strikeInbox := db.strikeInbox.insert _ fresh }
  | finishes {key : String} {db after : Db} (finishes : finishStrikeWork key db = .ok ((), after)) :
      StrikeChange now (.finishStrikeWork key) db after
  | retries {key : String} {attempts : Nat} {db after : Db}
      (retries : retryStrikeWork key attempts now db = .ok ((), after)) :
      StrikeChange now (.retryStrikeWork key attempts) db after
  | scans {id : Uuid} {offset attempts : Nat} {delay : Int} {db after : Db}
      (scans : recordStrikeScan id offset attempts delay now db = .ok ((), after)) :
      StrikeChange now (.recordStrikeScan id offset attempts delay) db after

section Calls

variable {key : String} {event : StrikeCompletedReceiveEvent} {now : Int} {before after : Db}

theorem enqueueStrikeWork_cases (ran : enqueueStrikeWork key event now before = .ok ((), after)) :
    (after = before ∧ ∃ row ∈ before.strikeInbox.rows, row.workKey = key ∧
        row.receiveRequestId = event.receiveRequestId ∧ row.receiveId = event.receiveId) ∨
      pendingCount before < inboxCapacity ∧
        ∃ fresh : before.strikeInbox.Fresh (pendingWork key event now),
          after = { before with strikeInbox := before.strikeInbox.insert _ fresh } := by
  unfold enqueueStrikeWork at ran
  split at ran
  · rename_i row found
    simp only [bind_eq_ok, ensure_eq_ok, pure_eq_ok, Prod.mk.injEq, true_and] at ran
    rcases ran with ⟨_, same, rfl⟩
    have isKey : row.workKey = key := by simpa using List.find?_some found
    exact .inl ⟨rfl, row, List.mem_of_find?_eq_some found, isKey, same⟩
  · simp only [bind_eq_ok, ensure_eq_ok, pure_eq_ok, Prod.exists, insertRow_eq_ok,
      Prod.mk.injEq, true_and] at ran
    rcases ran with ⟨_, room, _, _, ⟨_, fresh, rfl⟩, rfl⟩
    exact .inr ⟨room, fresh, rfl⟩

variable [SerdeJson] {label : LedgerLabel}

theorem strike_of_step (step : LedgerStep before label after) :
    StrikeKept before after ∨ StrikeChange label.now label.call before after := by
  rcases ledgerStep_cases step with ⟨_, _, rfl⟩ | ⟨response, _, ran⟩
  · exact .inl (.refl _)
  by_cases other : label.call.scope ≠ .strike
  · exact .inl ((body_effect ran).strikeKept other)
  rcases label with ⟨call, now, result⟩
  have enqueued : ∀ {key event}, call.enqueues = some (key, event) →
      enqueueStrikeWork key event now before = .ok ((), after) →
      StrikeKept before after ∨ StrikeChange now call before after := by
    intro key event enqueues ran
    rcases enqueueStrikeWork_cases ran with ⟨rfl, _⟩ | ⟨room, fresh, rfl⟩
    · exact .inl (.refl _)
    · exact .inr (.enqueues enqueues room fresh)
  cases call
  all_goals
    first
      | (refine absurd ?_ other; intro same; cases same; done)
      | (simp only [LedgerCall.body, transact_eq_ok] at ran; rcases ran with ⟨_, ran, _⟩)
  case recordStrikeReceiveRequest =>
    rcases (recordStrikeReceiveRequest_cases ran).2 with ⟨rfl, _⟩ | inserts
    · exact .inl (.refl _)
    · exact .inr (.requests inserts)
  case enqueueStrikeEvent => exact enqueued rfl ran
  case enqueueStrikeWork => exact enqueued rfl ran
  case finishStrikeWork => exact .inr (.finishes ran)
  case retryStrikeWork => exact .inr (.retries ran)
  case recordStrikeScan => exact .inr (.scans ran)

end Calls

/-! ## Work is kept -/

def HasWork (key : String) (receiveRequestId receiveId : Uuid) (db : Db) : Prop :=
  ∃ row ∈ db.strikeInbox.rows, row.workKey = key ∧ row.receiveRequestId = receiveRequestId ∧
    row.receiveId = receiveId

theorem finish_receiveRequestId (key : String) (row : InboxRow) :
    (row.finish key).receiveRequestId = row.receiveRequestId := by
  fun_cases InboxRow.finish <;> rfl

theorem finish_receiveId (key : String) (row : InboxRow) :
    (row.finish key).receiveId = row.receiveId := by
  fun_cases InboxRow.finish <;> rfl

theorem retry_receiveRequestId (key : String) (attempts : Nat) (now : Int) (row : InboxRow) :
    (row.retry key attempts now).receiveRequestId = row.receiveRequestId := by
  fun_cases InboxRow.retry <;> rfl

theorem retry_receiveId (key : String) (attempts : Nat) (now : Int) (row : InboxRow) :
    (row.retry key attempts now).receiveId = row.receiveId := by
  fun_cases InboxRow.retry <;> rfl

theorem mem_of_foldl_choose {Row : Type} {choose : Option Row → Row → Option Row}
    (chooses : ∀ best row, choose best row = some row ∨ choose best row = best)
    {rows : List Row} {best : Option Row} {row : Row}
    (selected : rows.foldl choose best = some row) : row ∈ rows ∨ best = some row := by
  induction rows generalizing best with
  | nil => exact .inr selected
  | cons head rest induction =>
      rw [List.foldl_cons] at selected
      cases induction selected with
      | inl later => exact .inl (List.mem_cons_of_mem _ later)
      | inr reached =>
          cases chooses best head with
          | inl replaced =>
              rw [replaced] at reached
              cases reached
              exact .inl List.mem_cons_self
          | inr kept =>
              rw [kept] at reached
              exact .inr reached

theorem earliest_mem {Row : Type} {precedes : Row → Row → Bool} {rows : List Row} {row : Row}
    (selected : earliest precedes rows = some row) : row ∈ rows := by
  rw [earliest] at selected
  apply (mem_of_foldl_choose _ selected).resolve_right
  · intro impossible
    cases impossible
  · intro best row
    cases best with
    | none => exact .inl rfl
    | some found =>
        dsimp only
        split
        · exact .inl rfl
        · exact .inr rfl

/-- Each choice precedes the one that it replaces, so no row precedes the last one. -/
theorem first_of_foldl_choose {Row : Type} {choose : Option Row → Row → Option Row}
    {precedes : Row → Row → Bool} (irreflexive : ∀ row, precedes row row = false)
    (transitive : ∀ {first second third}, precedes first second = true →
      precedes second third = true → precedes first third = true)
    (chooses : ∀ best row,
      choose (some best) row = if precedes row best then some row else some best)
    {rows : List Row} {best chosen : Row} (selected : rows.foldl choose (some best) = some chosen) :
    (chosen = best ∨ precedes chosen best = true) ∧
      ∀ row ∈ rows, precedes row chosen = false := by
  induction rows generalizing best with
  | nil =>
      cases selected
      exact ⟨.inl rfl, fun row member => by cases member⟩
  | cons head rest induction =>
      rw [List.foldl_cons, chooses] at selected
      split at selected
      · rename_i replaces
        rcases induction selected with ⟨reached, notBefore⟩
        have chosenFirst : precedes chosen best = true := by
          cases reached with
          | inl same => rw [same]; exact replaces
          | inr before => exact transitive before replaces
        refine ⟨.inr chosenFirst, List.forall_mem_cons.mpr ⟨?_, notBefore⟩⟩
        apply Bool.eq_false_iff.mpr
        intro headFirst
        cases reached with
        | inl same =>
            rw [same, irreflexive] at headFirst
            cases headFirst
        | inr before =>
            have circle := transitive headFirst before
            rw [irreflexive] at circle
            cases circle
      · rename_i keeps
        rcases induction selected with ⟨reached, notBefore⟩
        refine ⟨reached, List.forall_mem_cons.mpr ⟨?_, notBefore⟩⟩
        apply Bool.eq_false_iff.mpr
        intro headFirst
        cases reached with
        | inl same =>
            rw [same] at headFirst
            exact keeps headFirst
        | inr before => exact keeps (transitive headFirst before)

theorem earliest_isSome {Row : Type} {precedes : Row → Row → Bool} {rows : List Row} {row : Row}
    (member : row ∈ rows) : ∃ selected, earliest precedes rows = some selected := by
  have chooses : ∀ (rest : List Row) (best : Row),
      ∃ selected, earliest precedes (best :: rest) = some selected := by
    intro rest
    induction rest with
    | nil => exact fun best => ⟨best, rfl⟩
    | cons head rest induction =>
        intro best
        rw [earliest, List.foldl_cons, List.foldl_cons]
        dsimp only
        split
        · exact induction head
        · exact induction best
  cases rows with
  | nil => cases member
  | cons head rest => exact chooses rest head

theorem earliest_first {Row : Type} {precedes : Row → Row → Bool}
    (irreflexive : ∀ row, precedes row row = false)
    (transitive : ∀ {first second third}, precedes first second = true →
      precedes second third = true → precedes first third = true)
    {rows : List Row} {row : Row} (selected : earliest precedes rows = some row) :
    ∀ other ∈ rows, precedes other row = false := by
  cases rows with
  | nil => cases selected
  | cons head rest =>
      rw [earliest, List.foldl_cons] at selected
      have first := first_of_foldl_choose irreflexive transitive (fun _ _ => rfl) selected
      refine List.forall_mem_cons.mpr ⟨?_, first.2⟩
      cases first.1 with
      | inl same => rw [same]; exact irreflexive head
      | inr before =>
          apply Bool.eq_false_iff.mpr
          intro headFirst
          have circle := transitive headFirst before
          rw [irreflexive] at circle
          cases circle

theorem InboxRow.precedes_self (row : InboxRow) : row.precedes row = false := by
  simp [precedes]

theorem InboxRow.precedes_trans {first second third : InboxRow}
    (left : first.precedes second = true) (right : second.precedes third = true) :
    first.precedes third = true := by
  simp only [precedes, Bool.or_eq_true, Bool.and_eq_true, decide_eq_true_eq] at left right ⊢
  rcases left with earlier | ⟨sameTime, older | ⟨sameAge, smaller⟩⟩
  · left; omega
  · omega
  · rcases right with earlier | ⟨sameTime', older | ⟨sameAge', smaller'⟩⟩
    · left; omega
    · right; constructor
      · omega
      · left; omega
    · refine .inr ⟨by omega, .inr ⟨by omega, String.lt_trans smaller smaller'⟩⟩

theorem dueStrikeWork_first {now : Int} {db : Db} {work : StrikeInboxWork}
    (isDue : dueStrikeWork now db = some work) :
    ∃ row ∈ db.strikeInbox.rows, row.workKey = work.key ∧ row.status ≠ .done ∧
      row.nextAttempt ≤ now ∧ ∀ other ∈ db.strikeInbox.rows, other.status ≠ .done →
        other.nextAttempt ≤ now → row.nextAttempt ≤ other.nextAttempt := by
  rw [dueStrikeWork, Option.map_eq_some_iff] at isDue
  rcases isDue with ⟨row, selected, rfl⟩
  rcases List.mem_filter.mp (earliest_mem selected) with ⟨member, ready⟩
  simp only [Bool.and_eq_true, decide_eq_true_eq] at ready
  refine ⟨row, member, rfl, ready.1, ready.2, ?_⟩
  intro other otherMember unfinished due
  have notBefore := earliest_first InboxRow.precedes_self InboxRow.precedes_trans selected other
    (List.mem_filter.mpr ⟨otherMember, by simp [unfinished, due]⟩)
  simp only [InboxRow.precedes, Bool.or_eq_false_iff, decide_eq_false_iff_not] at notBefore
  omega

theorem dueStrikeWork_isSome {now : Int} {db : Db} {row : InboxRow}
    (member : row ∈ db.strikeInbox.rows) (unfinished : row.status ≠ .done)
    (ready : row.nextAttempt ≤ now) : ∃ work, dueStrikeWork now db = some work := by
  have isReady : row ∈ db.strikeInbox.rows.filter fun row =>
      row.status ≠ .done && row.nextAttempt ≤ now :=
    List.mem_filter.mpr ⟨member, by simp [unfinished, ready]⟩
  have selects : ∃ selected, earliest InboxRow.precedes (db.strikeInbox.rows.filter fun row =>
      row.status ≠ .done && row.nextAttempt ≤ now) = some selected := earliest_isSome isReady
  rcases selects with ⟨selected, isSelected⟩
  exact ⟨_, by rw [dueStrikeWork, isSelected]; rfl⟩

theorem hasWork_of_due {now : Int} {db : Db} {work : StrikeInboxWork}
    (isDue : dueStrikeWork now db = some work) :
    HasWork work.key work.event.receiveRequestId work.event.receiveId db := by
  rw [dueStrikeWork, Option.map_eq_some_iff] at isDue
  rcases isDue with ⟨row, selected, rfl⟩
  have member := List.mem_of_mem_filter (earliest_mem selected)
  exact ⟨row, member, rfl, rfl, rfl⟩

section Kept

variable {key : String} {receiveRequestId receiveId : Uuid} {before after : Db}

theorem HasWork.receiveId_eq (has : HasWork key receiveRequestId receiveId before)
    {row : InboxRow} (member : row ∈ before.strikeInbox.rows) (isKey : row.workKey = key) :
    row.receiveId = receiveId := by
  rcases has with ⟨found, foundMember, foundKey, _, sameId⟩
  have same := before.strikeInbox.row_eq_of_clash member foundMember
    (sameKey_iff.mpr ⟨key, by rw [isKey], by rw [foundKey]⟩)
  rw [same, sameId]

theorem HasWork.of_change {now : Int} {call : LedgerCall}
    (has : HasWork key receiveRequestId receiveId before)
    (change : StrikeChange now call before after) :
    HasWork key receiveRequestId receiveId after := by
  rcases has with ⟨row, member, isKey, sameRequest, sameReceive⟩
  cases change with
  | requests requests => cases requests; exact ⟨row, member, isKey, sameRequest, sameReceive⟩
  | enqueues _ _ fresh =>
      exact ⟨row, Table.mem_rows_insert_old fresh member, isKey, sameRequest, sameReceive⟩
  | @finishes finished _ _ finishes =>
      cases finishes
      refine ⟨row.finish finished, ?_, ?_⟩
      · rw [Table.rows_update]
        exact List.mem_map_of_mem member
      · rw [InboxRow.finish_workKey, finish_receiveRequestId, finish_receiveId]
        exact ⟨isKey, sameRequest, sameReceive⟩
  | @retries retried attempts _ _ retries =>
      cases retries
      refine ⟨row.retry retried attempts now, ?_, ?_⟩
      · rw [Table.rows_update]
        exact List.mem_map_of_mem member
      · rw [InboxRow.retry_workKey, retry_receiveRequestId, retry_receiveId]
        exact ⟨isKey, sameRequest, sameReceive⟩
  | scans scans =>
      simp only [recordStrikeScan, bind_eq_ok, pure_eq_ok, Prod.mk.injEq, true_and] at scans
      rcases scans with ⟨_, _, rfl⟩
      exact ⟨row, member, isKey, sameRequest, sameReceive⟩

variable [SerdeJson] {label : LedgerLabel} {labels : List LedgerLabel}

theorem HasWork.of_step (has : HasWork key receiveRequestId receiveId before)
    (step : LedgerStep before label after) : HasWork key receiveRequestId receiveId after := by
  rcases strike_of_step step with kept | change
  · rw [HasWork, kept.inbox]
    exact has
  · exact has.of_change change

theorem HasWork.of_run (has : HasWork key receiveRequestId receiveId before)
    (run : LedgerRun before labels after) : HasWork key receiveRequestId receiveId after :=
  run.invariant HasWork.of_step has

theorem hasWork_of_enqueues {event : StrikeCompletedReceiveEvent} {response : LedgerResponse}
    (step : LedgerStep before label after) (enqueues : label.call.enqueues = some (key, event))
    (accepted : label.result = .ok response) :
    HasWork key event.receiveRequestId event.receiveId after := by
  rcases ledgerStep_cases step with ⟨_, failed, _⟩ | ⟨_, _, ran⟩
  · rw [accepted] at failed
    cases failed
  have enqueued : enqueueStrikeWork key event label.now before = .ok ((), after) := by
    rcases label with ⟨call, now, result⟩
    cases call
    case enqueueStrikeEvent =>
      cases enqueues
      simp only [LedgerCall.body, transact_eq_ok] at ran
      rcases ran with ⟨_, ran, _⟩
      exact ran
    case enqueueStrikeWork =>
      cases enqueues
      simp only [LedgerCall.body, transact_eq_ok] at ran
      rcases ran with ⟨_, ran, _⟩
      exact ran
    all_goals cases enqueues
  rcases enqueueStrikeWork_cases enqueued with ⟨rfl, has⟩ | ⟨_, fresh, rfl⟩
  · exact has
  · exact ⟨_, Table.mem_rows_insert_new fresh, rfl, rfl, rfl⟩

end Kept

/-! ## Waiting -/

def WaitsAnHour (latest : Int) (db : Db) : Prop :=
  ∀ row ∈ db.strikeInbox.rows, row.nextAttempt ≤ latest + 3600

theorem retryDelay_le (attempts : Nat) : retryDelay attempts ≤ 300 :=
  Int.min_le_right _ _

section Waiting

variable {latest now : Int} {before after : Db}

theorem WaitsAnHour.of_change {call : LedgerCall} (waits : WaitsAnHour latest before)
    (change : StrikeChange now call before after) (reads : now ≤ latest) :
    WaitsAnHour latest after := by
  cases change with
  | requests requests => cases requests; exact waits
  | enqueues _ _ fresh =>
      intro row member
      rcases (Table.mem_rows_insert fresh).mp member with old | rfl
      · exact waits row old
      · dsimp only [pendingWork]
        omega
  | @finishes key _ _ ran =>
      cases ran
      intro row member
      rw [Table.rows_update] at member
      rcases List.mem_map.mp member with ⟨old, oldMember, rfl⟩
      have same : (old.finish key).nextAttempt = old.nextAttempt := by
        fun_cases InboxRow.finish <;> rfl
      rw [same]
      exact waits old oldMember
  | @retries key attempts _ _ ran =>
      cases ran
      intro row member
      rw [Table.rows_update] at member
      rcases List.mem_map.mp member with ⟨old, oldMember, rfl⟩
      have delay := retryDelay_le attempts
      rw [InboxRow.retry]
      split
      · dsimp only
        split <;> omega
      · exact waits old oldMember
  | scans scans =>
      simp only [recordStrikeScan, bind_eq_ok, pure_eq_ok, Prod.mk.injEq, true_and] at scans
      rcases scans with ⟨_, _, rfl⟩
      exact waits

theorem WaitsAnHour.of_run [SerdeJson] {labels : List LedgerLabel}
    (run : LedgerRun .fresh labels after) (readings : ∀ label ∈ labels, label.now ≤ latest) :
    WaitsAnHour latest after := by
  apply run.invariant_of_allowed _ readings
  · intro row member
    cases member
  · intro source label target waits reads step
    rcases strike_of_step step with kept | change
    · rw [WaitsAnHour, kept.inbox]
      exact waits
    · exact waits.of_change change reads

theorem work_due_within_hour [SerdeJson] {labels : List LedgerLabel}
    (run : LedgerRun .fresh labels after) (readings : ∀ label ∈ labels, label.now ≤ latest)
    (later : latest + 3600 ≤ now) :
    (∃ row ∈ after.strikeInbox.rows, row.status ≠ .done) ↔
      ∃ work, dueStrikeWork now after = some work := by
  constructor
  · rintro ⟨row, member, unfinished⟩
    have waits := WaitsAnHour.of_run run readings row member
    exact dueStrikeWork_isSome member unfinished (by omega)
  · rintro ⟨work, isDue⟩
    rcases dueStrikeWork_first isDue with ⟨row, member, _, unfinished, _⟩
    exact ⟨row, member, unfinished⟩

end Waiting

/-! ## Overtaking -/

def Overdue (time : Int) (key : String) (db : Db) : Prop :=
  ∃ row ∈ db.strikeInbox.rows, row.workKey = key ∧ row.status ≠ .done ∧ row.nextAttempt ≤ time

def LedgerCall.handles : LedgerCall → Option String
  | finishStrikeWork key => some key
  | retryStrikeWork key _ => some key
  | _ => none

theorem retryDelay_pos (attempts : Nat) : 0 < retryDelay attempts := by
  have power : (1 : Int) ≤ 2 ^ min attempts 8 := by exact_mod_cast Nat.one_le_two_pow
  rw [retryDelay]
  omega

section Overtaking

variable {time now : Int} {key : String} {before after : Db}

theorem Overdue.of_finish (overdue : Overdue time key after) {finished : String}
    (finishes : finishStrikeWork finished before = .ok ((), after)) :
    Overdue time key before ∧ key ≠ finished := by
  cases finishes
  rcases overdue with ⟨row, member, isKey, unfinished, due⟩
  rw [Table.rows_update] at member
  rcases List.mem_map.mp member with ⟨old, oldMember, rfl⟩
  rw [InboxRow.finish_workKey] at isKey
  by_cases isFinished : old.workKey = finished
  · rw [InboxRow.finish, if_pos isFinished] at unfinished
    exact absurd rfl unfinished
  · rw [InboxRow.finish, if_neg isFinished] at unfinished due
    exact ⟨⟨old, oldMember, isKey, unfinished, due⟩, fun same => isFinished (isKey.trans same)⟩

theorem Overdue.of_retry (overdue : Overdue time key after) {retried : String} {attempts : Nat}
    (retries : retryStrikeWork retried attempts now before = .ok ((), after))
    (reads : time < now) : Overdue time key before ∧ key ≠ retried := by
  cases retries
  rcases overdue with ⟨row, member, isKey, unfinished, due⟩
  rw [Table.rows_update] at member
  rcases List.mem_map.mp member with ⟨old, oldMember, rfl⟩
  rw [InboxRow.retry_workKey] at isKey
  have delay := retryDelay_pos attempts
  by_cases isRetried : old.workKey = retried ∧ old.status ≠ .done
  · rw [InboxRow.retry, if_pos isRetried] at due
    dsimp only at due
    split at due <;> omega
  · rw [InboxRow.retry, if_neg isRetried] at unfinished due
    refine ⟨⟨old, oldMember, isKey, unfinished, due⟩, fun same => ?_⟩
    exact isRetried ⟨isKey.trans same, unfinished⟩

theorem Overdue.of_change {call : LedgerCall} (overdue : Overdue time key after)
    (change : StrikeChange now call before after) (reads : time < now) :
    Overdue time key before := by
  cases change with
  | requests requests => cases requests; exact overdue
  | enqueues _ _ fresh =>
      rcases overdue with ⟨row, member, isKey, unfinished, due⟩
      rcases (Table.mem_rows_insert fresh).mp member with old | rfl
      · exact ⟨row, old, isKey, unfinished, due⟩
      · dsimp only [pendingWork] at due
        omega
  | finishes ran => exact (overdue.of_finish ran).1
  | retries ran => exact (overdue.of_retry ran reads).1
  | scans scans =>
      simp only [recordStrikeScan, bind_eq_ok, pure_eq_ok, Prod.mk.injEq, true_and] at scans
      rcases scans with ⟨_, _, rfl⟩
      exact overdue

variable [SerdeJson] {label : LedgerLabel} {labels : List LedgerLabel}

theorem Overdue.of_step (overdue : Overdue time key after) (step : LedgerStep before label after)
    (reads : time < label.now) : Overdue time key before := by
  rcases strike_of_step step with kept | change
  · rw [Overdue, ← kept.inbox]
    exact overdue
  · exact overdue.of_change change reads

theorem Overdue.of_run (overdue : Overdue time key after) (run : LedgerRun before labels after)
    (readings : ∀ label ∈ labels, time < label.now) : Overdue time key before := by
  induction run with
  | nil => exact overdue
  | cons step _ induction =>
      have later := induction overdue fun label member =>
        readings label (List.mem_cons_of_mem _ member)
      exact later.of_step step (readings _ List.mem_cons_self)

theorem not_overdue_of_handles {response : LedgerResponse} (step : LedgerStep before label after)
    (handles : label.call.handles = some key) (succeeded : label.result = .ok response)
    (reads : time < label.now) : ¬ Overdue time key after := by
  intro overdue
  rcases ledgerStep_cases step with ⟨_, failed, _⟩ | ⟨_, _, ran⟩
  · rw [succeeded] at failed
    cases failed
  rcases label with ⟨call, now, result⟩
  cases call
  case finishStrikeWork =>
    cases handles
    simp only [LedgerCall.body, transact_eq_ok] at ran
    rcases ran with ⟨_, ran, _⟩
    exact (overdue.of_finish ran).2 rfl
  case retryStrikeWork =>
    cases handles
    simp only [LedgerCall.body, transact_eq_ok] at ran
    rcases ran with ⟨_, ran, _⟩
    exact (overdue.of_retry ran reads).2 rfl
  all_goals cases handles

/-- Work that has been due since a time comes before all other work. -/
structure OverdueFirst (time : Int) (labels : List LedgerLabel) (before after : Db) : Prop where
  shrinks : ∀ key, Overdue time key after → Overdue time key before
  handled : ∀ label ∈ labels, ∀ key response, label.call.handles = some key →
    label.result = .ok response → ¬ Overdue time key after
  chosen : ∀ key now, Overdue time key after → time ≤ now →
    ∃ work, dueStrikeWork now after = some work ∧ Overdue time work.key after

/-- While the clock is past a time, work that was due by then is overtaken only by
work that was due by then as well, and by each piece once. -/
theorem overdue_work_first (run : LedgerRun before labels after)
    (readings : ∀ label ∈ labels, time < label.now) : OverdueFirst time labels before after := by
  constructor
  · exact fun key overdue => overdue.of_run run readings
  · intro label member key response handles succeeded overdue
    rcases List.append_of_mem member with ⟨earlier, later, split⟩
    subst split
    rcases run.at_split with ⟨source, target, _, step, rest⟩
    have still := overdue.of_run rest fun label member =>
      readings label (List.mem_append_right _ (List.mem_cons_of_mem _ member))
    exact not_overdue_of_handles step handles succeeded (readings _ (by simp)) still
  · rintro key now ⟨row, member, _, unfinished, due⟩ reached
    rcases dueStrikeWork_isSome member unfinished (due.trans reached) with ⟨work, isDue⟩
    rcases dueStrikeWork_first isDue with ⟨first, firstMember, isKey, firstUnfinished, _, least⟩
    have earlier := least row member unfinished (due.trans reached)
    exact ⟨work, isDue, first, firstMember, isKey, firstUnfinished, earlier.trans due⟩

end Overtaking

end LightningGoats
