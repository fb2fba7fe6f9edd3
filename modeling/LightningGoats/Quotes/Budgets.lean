import LightningGoats.Foundation.SlidingWindow
import LightningGoats.Quotes.Undisturbed

/-! # The admission budgets

Rows are only ever added, in the order of the clock, and every one of them found
room when it was added. No window, wherever it starts, holds more than its budget.
-/

namespace LightningGoats

open Outcome Relational SlidingWindow

/-! ## Admissions -/

structure QuoteAdmission where
  id : Uuid
  clientBucket : String
  requestedAt : Int
  reservationUntil : Int
  deriving DecidableEq, Repr

def QuoteRequestRow.admission (row : QuoteRequestRow) : QuoteAdmission where
  id := row.id
  clientBucket := row.clientBucket
  requestedAt := row.requestedAt
  reservationUntil := row.reservationUntil

@[simp] theorem QuoteRequestRow.settle_admission (id : Uuid) (status : QuoteStatus)
    (row : QuoteRequestRow) : (row.settle id status).admission = row.admission := by
  simp [admission]

def QuoteDb.admissions (db : QuoteDb) : List QuoteAdmission :=
  db.xmrQuoteRequests.rows.map QuoteRequestRow.admission

def QuoteChange.admission [QuoteJson] : QuoteChange → Option QuoteAdmission
  | reserves request _ _ now =>
      some ⟨request.id, request.clientBucket, now, now + reservationSeconds⟩
  | _ => .none

def QuoteLabel.admission [QuoteJson] (label : QuoteLabel) : Option QuoteAdmission :=
  label.change.admission

theorem pending_settleQuoteRequest_le (now : Int) (id : Uuid) (status : QuoteStatus)
    (settled : status ≠ .reserved) (db : QuoteDb) :
    ((settleQuoteRequest id status db).pending now).length ≤ (db.pending now).length := by
  rw [QuoteDb.pending, rows_settleQuoteRequest, List.filter_map, List.length_map]
  refine (List.monotone_filter_right _ fun row isPending => ?_).length_le
  simp only [Function.comp_apply, QuoteRequestRow.settle_reservationUntil,
    decide_eq_true_eq] at isPending ⊢
  unfold QuoteRequestRow.settle at isPending
  split at isPending
  · exact absurd isPending.1 settled
  · exact isPending

section Changes

variable [QuoteJson]

@[simp] theorem QuoteChange.develop_admission (change : QuoteChange) (row : QuoteRequestRow) :
    (change.develop row).admission = row.admission := by
  cases change <;> simp [develop]

variable [SerdeJson] {before after : QuoteDb} {change : QuoteChange}

theorem QuoteChanges.admissions_eq (changes : QuoteChanges before change after) :
    after.admissions = before.admissions ++ change.admission.toList := by
  have added : change.added.map QuoteRequestRow.admission = change.admission := by
    cases change <;> rfl
  rw [QuoteDb.admissions, changes.rows_eq, List.map_append, List.map_map, ← added]
  refine congr (congrArg HAppend.hAppend (List.map_congr_left fun row _ => ?_)) ?_
  · exact change.develop_admission row
  · cases change.added <;> rfl

theorem QuoteChanges.pending_le (changes : QuoteChanges before change after)
    (noAdmission : change.admission = .none) (now : Int) :
    (after.pending now).length ≤ (before.pending now).length := by
  cases changes with
  | reserves => cases noAdmission
  | @completes _ marked _ quote _ _ _ _ _ _ _ _ marks =>
      have settled := pending_settleQuoteRequest_le now quote.id
        (.ready quote.documentJson) (by simp) marked
      have sameRows : marked.pending now = before.pending now := by
        rw [QuoteDb.pending, marks.rows_eq]
        rfl
      exact sameRows ▸ settled
  | fails id => exact pending_settleQuoteRequest_le now id .failed (by simp) before
  | _ => exact Nat.le_refl _

end Changes

/-! ## The budgets -/

section Budgets

variable {policy : QuotePolicy} {before after : QuoteDb}

def QuoteDb.requestTimes (db : QuoteDb) : List Int :=
  db.admissions.map QuoteAdmission.requestedAt

def QuoteDb.requestTimesOf (clientBucket : String) (db : QuoteDb) : List Int :=
  (db.admissions.filter fun admission => admission.clientBucket = clientBucket).map
    QuoteAdmission.requestedAt

/-- What the admission check keeps true. The window is open at its start, so its
span counts one second less. -/
structure BudgetsHeld (policy : QuotePolicy) (db : QuoteDb) : Prop where
  ordered : db.requestTimes.Pairwise (· ≤ ·)
  clocked : ∀ time ∈ db.requestTimes, time ≤ db.xmrQuoteClock
  windows : Capped policy.maxRequestsPerWindow (policy.admissionWindowSeconds - 1)
    db.requestTimes
  clientWindows : ∀ clientBucket, Capped policy.maxRequestsPerClientWindow
    (policy.admissionWindowSeconds - 1) (db.requestTimesOf clientBucket)
  live : ∀ now, db.xmrQuoteClock ≤ now → (db.pending now).length ≤ policy.maxPendingRequests
  retained : db.admissions.length ≤ policy.maxRetainedRequests

theorem recent_length (since : Int) (db : QuoteDb) :
    (db.recent since).length =
      (db.requestTimes.filter fun time => since < time).length := by
  simp [QuoteDb.recent, QuoteDb.requestTimes, QuoteDb.admissions, List.filter_map,
    Function.comp_def, QuoteRequestRow.admission]

theorem recentOf_length (clientBucket : String) (since : Int) (db : QuoteDb) :
    (db.recentOf clientBucket since).length =
      ((db.requestTimesOf clientBucket).filter fun time => since < time).length := by
  simp only [QuoteDb.recentOf, QuoteDb.requestTimesOf, QuoteDb.admissions, List.filter_map,
    List.length_map, List.filter_filter]
  refine congrArg List.length (List.filter_congr fun row _ => ?_)
  simp only [Function.comp_apply, Bool.decide_and]
  exact Bool.and_comm _ _

namespace BudgetsHeld

theorem ofFresh : BudgetsHeld policy .fresh where
  ordered := .nil
  clocked := by simp [QuoteDb.requestTimes, QuoteDb.admissions, QuoteDb.fresh]
  windows := capped_nil
  clientWindows := fun _ => capped_nil
  live := by simp [QuoteDb.pending, QuoteDb.fresh]
  retained := by simp [QuoteDb.admissions, QuoteDb.fresh]

theorem of_same (held : BudgetsHeld policy before)
    (sameAdmissions : after.admissions = before.admissions)
    (clockMono : before.xmrQuoteClock ≤ after.xmrQuoteClock)
    (pendingLe : ∀ now, (after.pending now).length ≤ (before.pending now).length) :
    BudgetsHeld policy after where
  ordered := by
    rw [QuoteDb.requestTimes, sameAdmissions]
    exact held.ordered
  clocked := by
    rw [QuoteDb.requestTimes, sameAdmissions]
    exact fun time member => Int.le_trans (held.clocked time member) clockMono
  windows := by
    rw [QuoteDb.requestTimes, sameAdmissions]
    exact held.windows
  clientWindows := by
    intro clientBucket
    rw [QuoteDb.requestTimesOf, sameAdmissions]
    exact held.clientWindows clientBucket
  live := fun now notBehind =>
    Nat.le_trans (pendingLe now) (held.live now (Int.le_trans clockMono notBehind))
  retained := by
    rw [sameAdmissions]
    exact held.retained

theorem reserve (held : BudgetsHeld policy before) (valid : policy.Valid)
    {request : QuoteRequest} {identity : String} {now : Int} (ticks : Ticks now before)
    (fits : now + reservationSeconds ≤ maxI64)
    (capacity : before.HasCapacity policy request.clientBucket now
      (saturatingSubI64 now policy.admissionWindowSeconds))
    (fresh : before.xmrQuoteRequests.Fresh (reservation request identity now)) :
    BudgetsHeld policy { before with
      xmrQuoteClock := now
      xmrQuoteRequests := before.xmrQuoteRequests.insert (reservation request identity now)
        fresh } := by
  rcases capacity with ⟨retained, recent, recentOf, pending⟩
  have windowFits : (policy.admissionWindowSeconds : Int) ≤ maxI64 := by
    have bounded : policy.admissionWindowSeconds ≤ 86400 := by
      unfold QuotePolicy.Valid at valid
      omega
    have allowed : (86400 : Int) ≤ maxI64 := by decide
    omega
  have nowFits : now ≤ maxI64 := by
    unfold reservationSeconds at fits
    omega
  have since : saturatingSubI64 now policy.admissionWindowSeconds =
      now - policy.admissionWindowSeconds :=
    saturatingSubI64_eq ticks.nonneg nowFits (Int.natCast_nonneg _) windowFits
  have lookback : ∀ time : Int, now - policy.admissionWindowSeconds < time ↔
      now - (policy.admissionWindowSeconds - 1) ≤ time := by
    intro time
    omega
  rw [since, recent_length] at recent
  rw [since, recentOf_length] at recentOf
  simp only [lookback] at recent recentOf
  have times : ∀ time ∈ before.requestTimes, time ≤ now := fun time member =>
    Int.le_trans (held.clocked time member) ticks.notBehind
  constructor
  all_goals simp only [QuoteDb.requestTimes, QuoteDb.requestTimesOf, QuoteDb.admissions,
    Table.rows_insert, List.map_append, List.filter_append]
  · refine List.pairwise_append.mpr ⟨held.ordered, by simp, fun time member added isAdded => ?_⟩
    simp only [List.map_cons, List.map_nil, List.mem_singleton] at isAdded
    rw [isAdded]
    exact times time member
  · intro time member
    rcases List.mem_append.mp member with old | isNew
    · exact times time old
    · simp only [List.map_cons, List.map_nil, List.mem_singleton] at isNew
      rw [isNew]
      exact Int.le_refl now
  · exact held.windows.concat recent
  · intro clientBucket
    by_cases same : request.clientBucket = clientBucket
    · subst same
      have found : [(reservation request identity now).admission].filter
          (fun admission => decide (admission.clientBucket = request.clientBucket)) =
            [(reservation request identity now).admission] := by
        simp [QuoteRequestRow.admission, reservation]
      rw [List.map_cons, List.map_nil, found]
      exact (held.clientWindows request.clientBucket).concat recentOf
    · have absent : [(reservation request identity now).admission].filter
          (fun admission => decide (admission.clientBucket = clientBucket)) = [] := by
        simpa [QuoteRequestRow.admission, reservation] using same
      rw [List.map_cons, List.map_nil, absent, List.map_nil, List.append_nil]
      exact held.clientWindows clientBucket
  · intro later notBehind
    simp only [QuoteDb.pending, Table.rows_insert, List.filter_append, List.length_append]
    have ended : (before.pending later).length ≤ (before.pending now).length := by
      refine (List.monotone_filter_right _ fun row isPending => ?_).length_le
      simp only [decide_eq_true_eq] at isPending ⊢
      exact ⟨isPending.1, Int.lt_of_le_of_lt notBehind isPending.2⟩
    have atMostOne := List.length_filter_le (fun row : QuoteRequestRow =>
      decide (row.status = .reserved ∧ later < row.reservationUntil))
      [reservation request identity now]
    rw [List.length_singleton] at atMostOne
    rw [QuoteDb.pending] at ended
    omega
  · rw [List.length_append, List.length_map]
    exact retained

end BudgetsHeld

theorem admission_ids_nodup (db : QuoteDb) :
    (db.admissions.map QuoteAdmission.id).Nodup := by
  rw [QuoteDb.admissions, List.map_map]
  exact db.xmrQuoteRequests.keys_nodup

/-- An admission window that is open at its start, as the limiter's closed one. -/
theorem within_requestedAt (admissions : List QuoteAdmission) (now window : Int) :
    (admissions.filter fun admission =>
      now - window < admission.requestedAt ∧ admission.requestedAt ≤ now).length =
      (within (now - window + 1) (window - 1)
        (admissions.map QuoteAdmission.requestedAt)).length := by
  rw [within, List.filter_map, List.length_map]
  refine congrArg List.length (List.filter_congr fun admission _ => ?_)
  have same : (now - window < admission.requestedAt ∧ admission.requestedAt ≤ now) ↔
      (now - window + 1 ≤ admission.requestedAt ∧
        admission.requestedAt ≤ now - window + 1 + (window - 1)) := by
    omega
  simp only [Function.comp_apply, same]

end Budgets

/-! ## Runs under one policy -/

def QuoteChange.UnderPolicy [QuoteJson] (policy : QuotePolicy) : QuoteChange → Prop
  | reserves _ _ checked _ => checked = policy
  | _ => True

section Runs

variable [QuoteJson] {policy : QuotePolicy}

theorem underPolicy_of_caller {caller : QuoteCaller} {event : QuoteEvent}
    (same : caller.service.policy = policy) : (event.change caller).UnderPolicy policy := by
  unfold QuoteEvent.change
  split <;> first | exact same | trivial

variable [SerdeJson]

theorem BudgetsHeld.of_changes {before after : QuoteDb} {change : QuoteChange}
    (held : BudgetsHeld policy before) (valid : policy.Valid)
    (underPolicy : change.UnderPolicy policy) (changes : QuoteChanges before change after) :
    BudgetsHeld policy after := by
  by_cases isAdmission : change.admission = .none
  · refine held.of_same ?_ changes.clock_mono fun now => changes.pending_le isAdmission now
    rw [changes.admissions_eq, isAdmission, Option.toList_none, List.append_nil]
  · cases changes with
    | reserves ticks _ _ _ capacity fits fresh =>
        cases underPolicy
        exact held.reserve valid ticks fits capacity fresh
    | _ => exact absurd rfl isAdmission

theorem BudgetsHeld.of_history {before after : QuoteDb} {changes : List QuoteChange}
    (held : BudgetsHeld policy before) (valid : policy.Valid)
    (underPolicy : ∀ change ∈ changes, change.UnderPolicy policy)
    (history : QuoteHistory before changes after) : BudgetsHeld policy after :=
  history.invariant_of_allowed
    (fun holds (allowed : QuoteChange.UnderPolicy policy _) step =>
      holds.of_changes valid allowed step) underPolicy held

theorem admissions_of_history {before after : QuoteDb} {changes : List QuoteChange}
    (history : QuoteHistory before changes after) :
    after.admissions = before.admissions ++ changes.filterMap QuoteChange.admission := by
  induction history with
  | nil => simp
  | @cons before middle after change changes step _ induction =>
      rw [induction, step.admissions_eq, List.filterMap_cons]
      cases change.admission <;> simp

theorem underPolicy_of_run {before after : QuoteSystem} {labels : List QuoteLabel}
    (run : QuoteRun before labels after) (noCalls : before.calls = [])
    (fixed : ∀ caller, .received caller ∈ labels → caller.service.policy = policy) :
    ∀ change ∈ labels.map QuoteLabel.change, change.UnderPolicy policy := by
  have earlier : ∀ call ∈ before.calls, call.caller.service.policy = policy := by
    simp [noCalls]
  have acted := (callers_of_run run fixed earlier).2
  intro change member
  rcases List.mem_map.mp member with ⟨label, isLabel, rfl⟩
  cases label with
  | received => trivial
  | acted index caller event response =>
      exact underPolicy_of_caller (acted index caller event response isLabel)
  | ledger => trivial

theorem QuoteChanges.admission_of_known {before after : QuoteDb} {caller : QuoteCaller}
    {event : QuoteEvent} {row : QuoteRequestRow}
    (changes : QuoteChanges before (event.change caller) after)
    (member : row ∈ before.xmrQuoteRequests.rows) (sameId : row.id = caller.request.id) :
    (event.change caller).admission = .none := by
  generalize isChange : event.change caller = change at changes
  cases changes with
  | reserves _ _ absent =>
      unfold QuoteEvent.change at isChange
      split at isChange <;> cases isChange
      exact absurd sameId (absent row member)
  | _ => rfl

/-- Every run keeps within the budgets of its policy, and an existing request
consumes none of them. -/
theorem quote_budgets_hold {labels : List QuoteLabel} {system : QuoteSystem}
    (valid : policy.Valid) (run : QuoteRun .initial labels system)
    (fixed : ∀ caller, .received caller ∈ labels → caller.service.policy = policy) :
    (∀ now : Int, (system.db.admissions.filter fun admission =>
      now - policy.admissionWindowSeconds < admission.requestedAt ∧
        admission.requestedAt ≤ now).length ≤ policy.maxRequestsPerWindow) ∧
    (∀ (clientBucket : String) (now : Int), (system.db.admissions.filter fun admission =>
      admission.clientBucket = clientBucket ∧
        now - policy.admissionWindowSeconds < admission.requestedAt ∧
        admission.requestedAt ≤ now).length ≤ policy.maxRequestsPerClientWindow) ∧
    (∀ now, system.db.xmrQuoteClock ≤ now →
      (system.db.pending now).length ≤ policy.maxPendingRequests) ∧
    system.db.xmrQuoteRequests.rows.length ≤ policy.maxRetainedRequests ∧
    system.db.admissions = labels.filterMap QuoteLabel.admission ∧
    (system.db.admissions.map QuoteAdmission.id).Nodup ∧
    (system.db.admissions.map QuoteAdmission.requestedAt).Pairwise (· ≤ ·) ∧
    ∀ earlier index caller event response later source target,
      labels = earlier ++ .acted index caller event response :: later →
      QuoteRun .initial earlier source →
      QuoteStep source (.acted index caller event response) target →
      (∃ row ∈ source.db.xmrQuoteRequests.rows, row.id = caller.request.id) →
      target.db.admissions = source.db.admissions ∧
        ∀ now, (target.db.pending now).length ≤ (source.db.pending now).length := by
  have held : BudgetsHeld policy system.db :=
    BudgetsHeld.ofFresh.of_history valid (underPolicy_of_run run rfl fixed) run.history
  refine ⟨fun now => ?_, fun clientBucket now => ?_, held.live, ?_, ?_, admission_ids_nodup _,
    held.ordered, ?_⟩
  · rw [within_requestedAt]
    exact held.windows.within_le _
  · have filtered := within_requestedAt
      (system.db.admissions.filter fun admission => admission.clientBucket = clientBucket) now
      policy.admissionWindowSeconds
    have capped := (held.clientWindows clientBucket).within_le
      (now - policy.admissionWindowSeconds + 1)
    rw [QuoteDb.requestTimesOf, ← filtered, List.filter_filter] at capped
    refine Nat.le_trans (Nat.le_of_eq (congrArg List.length
      (List.filter_congr fun admission _ => ?_))) capped
    simp only [Bool.decide_and]
    exact Bool.and_comm _ _
  · have retained := held.retained
    rwa [QuoteDb.admissions, List.length_map] at retained
  · have admitted := admissions_of_history run.history
    rwa [List.filterMap_map] at admitted
  · rintro earlier index caller event response later source target _ before step
      ⟨row, member, sameId⟩
    have changes : QuoteChanges source.db (event.change caller) target.db :=
      QuoteStep.changes step (CallsSound.ofInitial.of_run before)
    have noAdmission := changes.admission_of_known member sameId
    refine ⟨?_, fun now => changes.pending_le noAdmission now⟩
    rw [changes.admissions_eq, noAdmission, Option.toList_none, List.append_nil]

end Runs

/-- A client may start one request in a minute. Its second one is refused, and a retry of
the first is answered. -/
theorem quote_budgets_hold_example :
    letI := exampleQuoteJson
    letI := exampleJson
    ∃ labels system stored, QuoteRun .initial labels system ∧
      .acted 1 (exampleCreator ⟨8⟩ 'a') (.reserved (exampleIdentityJson ⟨8⟩ 'a') 1010 true
        (.error .capacity)) (some (.error .capacity)) ∈ labels ∧
      .acted 2 (exampleCreator ⟨7⟩ 'a') (.reserved (exampleIdentityJson ⟨7⟩ 'a') 1020 true
        (.ok (some stored.documentJson))) (some (.ok (.quote stored))) ∈ labels ∧
      system.db.admissions.map QuoteAdmission.id = [⟨7⟩] ∧
      ∀ (clientBucket : String) (now : Int), (system.db.admissions.filter fun admission =>
        admission.clientBucket = clientBucket ∧
          now - 60 < admission.requestedAt ∧ admission.requestedAt ≤ now).length ≤ 1 := by
  let := exampleQuoteJson
  let := exampleJson
  rcases example_creates [] with ⟨stored, db, created, issues, _⟩
  rcases issues.member with ⟨row, member, holds, requested⟩
  have fields : ∀ {row}, row ∈ db.xmrQuoteRequests.rows → row.id = ⟨7⟩ ∧
      row.clientBucket = (exampleRequest ⟨8⟩ 'a').clientBucket ∧ row.requestedAt = 1000 := by
    intro row isRow
    cases issues.mem_cases isRow with
    | inl old => cases old
    | inr isNew => exact isNew
  have full : ¬ db.HasCapacity examplePolicy (exampleRequest ⟨8⟩ 'a').clientBucket 1010
      (saturatingSubI64 1010 examplePolicy.admissionWindowSeconds) := by
    rintro ⟨_, _, room, _⟩
    have recent : row ∈ db.recentOf (exampleRequest ⟨8⟩ 'a').clientBucket
        (saturatingSubI64 1010 examplePolicy.admissionWindowSeconds) := by
      rw [QuoteDb.recentOf, List.mem_filter, decide_eq_true_eq, (fields member).2.1,
        (fields member).2.2]
      exact ⟨member, rfl, by decide⟩
    exact absurd room (Nat.not_lt.mpr (List.length_pos_of_mem recent))
  have absent : ∀ row ∈ db.xmrQuoteRequests.rows, row.id ≠ (exampleRequest ⟨8⟩ 'a').id := by
    intro row isRow
    rw [(fields isRow).1]
    decide
  have refused := @refused_run _ exampleJson db [⟨exampleCreator ⟨7⟩ 'a', .done⟩]
    (exampleCreator ⟨8⟩ 'a') _ 1010 _ rfl exampleIdentity_new.2.2.2
    (reserveXmrQuote_of_full (issues.ticks (by decide) (by decide)) absent ⟨by decide, by decide⟩
      full)
  have replayed := @replayed_run _ exampleJson db
    [⟨exampleCreator ⟨7⟩ 'a', .done⟩, ⟨exampleCreator ⟨8⟩ 'a', .done⟩] (exampleCreator ⟨7⟩ 'a')
    _ row stored 1020 rfl exampleIdentity_new.1 (issues.ticks (by decide) (by decide)) member
    holds issues.sameId issues.sameIdentity (by rw [requested]; decide)
  have run : QuoteRun .initial _ _ := created.append (refused.append replayed)
  have held := @quote_budgets_hold exampleQuoteJson examplePolicy exampleJson _ _ (by decide) run
    (by simp [createLabels, reservingLabels, issuingLabels, completedLabel, answeredLabels,
      beginLabels, exampleCreator, exampleService])
  refine ⟨_, _, stored, run, ?_, ?_, ?_, held.2.1⟩
  · apply List.mem_append_right
    apply List.mem_append_left
    exact List.mem_append_right _ List.mem_cons_self
  · apply List.mem_append_right
    apply List.mem_append_right
    exact List.mem_append_right _ List.mem_cons_self
  · rw [held.2.2.2.2.1]
    rfl

end LightningGoats
