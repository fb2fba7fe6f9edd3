import LightningGoats.Gateway.RateLimit
import LightningGoats.Ledger.Feed

/-! # When capacity returns

A refusal for capacity says after how many seconds the next request is admitted.
That is exact because the rows of the last hour never exceed the cap: as soon as
the oldest of them leaves the hour there is room.
-/

namespace LightningGoats

open Outcome Relational

/-! ## Delays -/

section Delays

variable {cap now time : Int} {updates : List Int}

theorem withinHour_later (notBefore : now ≤ time) (updates : List Int) :
    (withinHour time updates).Sublist (withinHour now updates) :=
  List.monotone_filter_right _ fun updatedAt inside => by
    simp only [decide_eq_true_eq] at inside ⊢
    omega

theorem capacityDelay_of_room (room : ¬ cap ≤ (withinHour now updates).length) :
    capacityDelay cap now updates = 0 :=
  if_neg room

theorem capacityDelay_of_full {oldest : Int} (full : cap ≤ (withinHour now updates).length)
    (isOldest : (withinHour now updates).min? = some oldest) :
    capacityDelay cap now updates = oldest + 3601 - now := by
  rw [capacityDelay, if_pos full, isOldest]

theorem capacityDelay_later (bounded : (withinHour now updates).length ≤ cap)
    (notBefore : now ≤ time) :
    (time < now + capacityDelay cap now updates →
      capacityDelay cap time updates = now + capacityDelay cap now updates - time) ∧
    (now + capacityDelay cap now updates ≤ time → capacityDelay cap time updates ≤ 0) := by
  have fewer := (withinHour_later notBefore updates).length_le
  by_cases full : cap ≤ (withinHour now updates).length
  case neg =>
    rw [capacityDelay_of_room full, capacityDelay_of_room (by omega)]
    exact ⟨fun before => by omega, fun _ => Int.le_refl 0⟩
  cases isOldest : (withinHour now updates).min? with
  | none =>
      have nothing := List.min?_eq_none_iff.mp isOldest
      have nothingLater : withinHour time updates = [] :=
        List.eq_nil_of_length_eq_zero (by rw [nothing] at fewer; exact Nat.le_zero.mp fewer)
      simp only [capacityDelay, nothing, nothingLater, List.min?_nil, ite_self]
      exact ⟨fun before => by omega, fun _ => Int.le_refl 0⟩
  | some oldest =>
      rcases List.min?_eq_some_iff.mp isOldest with ⟨member, first⟩
      rw [capacityDelay_of_full full isOldest]
      constructor
      · intro before
        have same : withinHour time updates = withinHour now updates := by
          refine List.filter_congr fun updatedAt isUpdate => decide_eq_decide.mpr ?_
          constructor
          · omega
          · intro inside
            have notOlder := first updatedAt
              (List.mem_filter.mpr ⟨isUpdate, decide_eq_true inside⟩)
            omega
        rw [capacityDelay_of_full (same ▸ full) (same ▸ isOldest)]
        omega
      · intro passed
        have room : (withinHour time updates).length < (withinHour now updates).length := by
          refine Nat.lt_of_le_of_ne fewer fun sameLength => ?_
          rw [← (withinHour_later notBefore updates).eq_of_length sameLength] at member
          have inside := of_decide_eq_true (List.mem_filter.mp member).2
          omega
        rw [capacityDelay_of_room (by omega)]

theorem intervalDelay_later {interval sinceLast : Int}
    (delayed : intervalDelay interval now updates = .ok sinceLast) (nonempty : updates ≠ []) :
    intervalDelay interval time updates = .ok (sinceLast + now - time) := by
  unfold intervalDelay at delayed ⊢
  split at delayed
  · rename_i isNone
    exact absurd (List.max?_eq_none_iff.mp isNone) nonempty
  · split at delayed
    · cases delayed
      rename_i fits
      rw [if_pos fits]
      congr 1
      omega
    · cases delayed

theorem capacityDelay_nil : capacityDelay cap now [] = 0 := by
  simp [capacityDelay, withinHour]

theorem admissionDelay_exact {limits : AdmissionLimits} {delay : Int}
    (delayed : admissionDelay limits now updates = .ok delay) (positive : 0 < delay)
    (bounded : (withinHour now updates).length ≤ limits.maxPerHour) (notBefore : now ≤ time) :
    ∃ left, admissionDelay limits time updates = .ok left ∧
      (time < now + delay → 0 < left) ∧ (now + delay ≤ time → left = 0) := by
  simp only [admissionDelay, bind_eq_ok, pure_eq_ok] at delayed
  rcases delayed with ⟨sinceLast, interval, isDelay⟩
  have nonempty : updates ≠ [] := by
    rintro rfl
    cases interval
    rw [capacityDelay_nil] at isDelay
    omega
  rcases capacityDelay_later (Int.ofNat_le.mpr bounded) notBefore with ⟨running, finished⟩
  refine ⟨max 0 (max (sinceLast + now - time) (capacityDelay limits.maxPerHour time updates)),
    ?_, ?_, ?_⟩
  · rw [admissionDelay, intervalDelay_later interval nonempty]
    rfl
  · intro before
    by_cases inCapacity : time < now + capacityDelay limits.maxPerHour now updates
    · rw [running inCapacity]
      omega
    · omega
  · intro passed
    have capacityFinished := finished (by omega)
    omega

end Delays

/-! ## The last hour -/

section Hours

variable {limits : AdmissionLimits} {before after : GatewayDb} {label : AdmissionLabel}
  {labels : List AdmissionLabel} {now : Int}

def counted (now : Int) (db : GatewayDb) : Nat :=
  db.feederRequests.rows.countP fun row => row.status = .pending || now - 3600 ≤ row.updatedAt

theorem withinHour_le_counted (now : Int) (db : GatewayDb) :
    (withinHour now (db.feederRequests.rows.map FeederRequest.updatedAt)).length ≤
      counted now db := by
  rw [withinHour, List.filter_map, List.length_map, ← List.countP_eq_length_filter]
  refine List.countP_mono_left fun row _ inside => ?_
  rw [Bool.or_eq_true]
  exact .inr inside

def NotBehind (labels : List AdmissionLabel) (now : Int) : Prop :=
  ∀ reading ∈ labels.flatMap AdmissionLabel.readings, reading ≤ now

theorem counted_step
    (held : ∀ now, NotBehind labels now → counted now before ≤ limits.maxPerHour)
    (step : AdmissionStep limits before label after) (notBehind : NotBehind (labels ++ [label]) now) :
    counted now after ≤ limits.maxPerHour := by
  have upToNow : NotBehind labels now := fun reading member =>
    notBehind reading (by
      rw [List.flatMap_append]
      exact List.mem_append_left _ member)
  cases admissionStep_effect step with
  | nothing => exact held now upToNow
  | refuses _ refuses =>
      cases refuses
      exact held now upToNow
  | @acknowledges _ id time acknowledges =>
      cases acknowledges with
      | acknowledges reserved =>
        refine Nat.le_trans ?_ (held now upToNow)
        rw [counted, (rows_acknowledge id time before).1, List.countP_map]
        refine List.countP_mono_left fun row _ counts => ?_
        rw [Function.comp_apply, FeederRequest.acknowledge] at counts
        split at counts
        · rename_i isPending
          simp [isPending.2]
        · exact counts
  | @admits _ id checkedAt insertedAt within reserves =>
      cases reserves with
      | reserves _ idle fresh =>
        have checked : checkedAt ≤ now := notBehind checkedAt (by
          simp [AdmissionLabel.readings, AdmissionLabel.admits])
        have recent : counted now before < limits.maxPerHour := by
          refine Nat.lt_of_le_of_lt ?_ within.capacity
          rw [withinHour, List.filter_map, List.length_map, ← List.countP_eq_length_filter]
          refine List.countP_mono_left fun row member counts => ?_
          simp only [idle row member, reduceCtorEq, decide_false, Bool.false_or,
            decide_eq_true_eq] at counts
          simp only [Function.comp_apply, decide_eq_true_eq]
          omega
        rw [counted, Table.rows_insert, List.countP_append, List.countP_singleton]
        change counted now before + _ ≤ _
        split <;> omega

theorem counted_of_run (run : AdmissionRun limits .empty labels after)
    (clock : (labels.flatMap AdmissionLabel.readings).Pairwise (· ≤ ·))
    (notBehind : NotBehind labels now) : counted now after ≤ limits.maxPerHour := by
  induction labels using List.reverseRecOn generalizing after now with
  | nil =>
      have isEmpty := Execution.Run.nil_iff.mp run
      subst isEmpty
      exact Nat.zero_le _
  | append_singleton labels label induction =>
      rcases Execution.Run.at_split run with ⟨middle, target, first, taken, rest⟩
      have isEnd := Execution.Run.nil_iff.mp rest
      subst isEnd
      have earlier : (labels.flatMap AdmissionLabel.readings).Pairwise (· ≤ ·) := by
        rw [List.flatMap_append] at clock
        exact (List.pairwise_append.mp clock).1
      exact counted_step (fun now notBehind => induction first earlier notBehind) taken notBehind

end Hours

/-! ## A request that has not been decided -/

section Undecided

variable {limits : AdmissionLimits} {safetyRefusal : Bool} {requestId : Uuid}
  {checkedAt insertedAt delay : Int} {before after : GatewayDb} {refusal : FeedRefusal}

def GatewayDb.isPending (db : GatewayDb) : Bool :=
  db.feederRequests.rows.any fun row => row.status = .pending

theorem newRefusal_bounds {pending : Bool}
    (refused : newRefusal safetyRefusal pending delay = some refusal) :
    1 ≤ refusal.retryAfterSeconds ∧ refusal.retryAfterSeconds ≤ 86400 := by
  unfold newRefusal at refused
  split at refused
  · cases refused
    exact ⟨by decide, by decide⟩
  · split at refused
    · cases refused
      exact ⟨by decide, by decide⟩
    · split at refused
      · cases refused
        dsimp only
        omega
      · cases refused

theorem newRefusal_capacity {pending : Bool} {retry : Nat}
    (refused : newRefusal safetyRefusal pending delay = some ⟨.capacity, retry⟩) :
    pending = false ∧ 0 < delay ∧ retry = min delay.toNat 86400 := by
  unfold newRefusal at refused
  split at refused
  · cases refused
  · split at refused
    · cases refused
    · rename_i idle
      split at refused
      · rename_i positive
        cases refused
        exact ⟨by simpa using idle, positive, rfl⟩
      · cases refused

theorem beginRequest_undecided
    (fits : limits.minInterval ≤ maxAccountingUnits ∧ limits.maxPerHour ≤ maxAccountingUnits)
    (safe : 5 ≤ limits.minInterval ∧ 1 ≤ limits.maxPerHour)
    (undecided : decision requestId before = .undecided)
    (delayed : admissionDelay limits checkedAt
      (before.feederRequests.rows.map FeederRequest.updatedAt) = .ok delay) :
    ∃ after, beginRequest requestId limits safetyRefusal checkedAt insertedAt before =
      .ok (match newRefusal safetyRefusal before.isPending delay with
        | some refusal => .notDispatched refusal
        | none => .new, after) := by
  rcases decision_undecided.mp undecided with ⟨noStatus, noRefusal⟩
  have unpaired : ∀ row id, SameKey (fun id : Uuid => some id) row id → row = id :=
    fun row id same => by
      rcases sameKey_iff.mp same with ⟨_, left, right⟩
      exact Option.some.inj (left.trans right.symm)
  simp only [beginRequest, ensure_of fits, ensure_of safe, ok_bind, noStatus, noRefusal, delayed]
  change ∃ after, (match newRefusal safetyRefusal before.isPending delay with
    | some refusal => do
        let refused ← insertRefusal requestId refusal before
        return (BeginRequestOutcome.notDispatched refusal, refused)
    | none => do
        let admitted ← insertRequest requestId insertedAt before
        return (.new, admitted)) = _
  cases newRefusal safetyRefusal before.isPending delay with
  | some refusal =>
      have fresh : before.feederRefusals.Fresh ⟨requestId, refusal⟩ := fun row member clashes =>
        refusalJson_eq_none.mp noRefusal row member (unpaired _ _ clashes)
      have inserted : insertRefusal requestId refusal before = .ok { before with
          feederRefusals := before.feederRefusals.insert _ fresh } := dif_pos fresh
      exact ⟨_, congrArg (· >>= fun refused =>
        Except.ok (BeginRequestOutcome.notDispatched refusal, refused)) inserted⟩
  | none =>
      have fresh : before.feederRequests.Fresh ⟨requestId, .pending, insertedAt, insertedAt⟩ :=
        fun row member clashes => statusStr_eq_none.mp noStatus row member (unpaired _ _ clashes)
      have inserted : insertRequest requestId insertedAt before = .ok { before with
          feederRequests := before.feederRequests.insert _ fresh
          feederRequestEvents := before.feederRequestEvents ++ [⟨requestId, .reserved⟩] } :=
        dif_pos fresh
      exact ⟨_, congrArg (· >>= fun admitted =>
        Except.ok (BeginRequestOutcome.new, admitted)) inserted⟩

theorem beginRequest_refused
    (ran : beginRequest requestId limits safetyRefusal checkedAt insertedAt before =
      .ok (.notDispatched refusal, after)) (undecided : decision requestId before = .undecided) :
    ((limits.minInterval ≤ maxAccountingUnits ∧ limits.maxPerHour ≤ maxAccountingUnits) ∧
      5 ≤ limits.minInterval ∧ 1 ≤ limits.maxPerHour) ∧
    ∃ delay, admissionDelay limits checkedAt
        (before.feederRequests.rows.map FeederRequest.updatedAt) = .ok delay ∧
      newRefusal safetyRefusal before.isPending delay = some refusal ∧
      Decides before (.refuses requestId refusal) after := by
  rcases decision_undecided.mp undecided with ⟨noStatus, noRefusal⟩
  unfold beginRequest at ran
  simp only [bind_eq_ok, ensure_eq_ok, noStatus, noRefusal] at ran
  rcases ran with ⟨_, fits, _, safe, delay, delayed, ran⟩
  refine ⟨⟨fits, safe⟩, delay, delayed, ?_⟩
  change (match newRefusal safetyRefusal before.isPending delay with
    | some refusal => do
        let refused ← insertRefusal requestId refusal before
        return (BeginRequestOutcome.notDispatched refusal, refused)
    | none => do
        let admitted ← insertRequest requestId insertedAt before
        return (.new, admitted)) = _ at ran
  split at ran
  · rename_i isRefusal
    simp only [bind_eq_ok, pure_eq_ok, insertRefusal] at ran
    rcases ran with ⟨refused, inserted, ran⟩
    cases ran
    split at inserted
    · rename_i fresh
      cases inserted
      exact ⟨isRefusal, .refuses undecided fresh⟩
    · cases inserted
  · simp only [bind_eq_ok, pure_eq_ok] at ran
    rcases ran with ⟨_, _, ran⟩
    cases ran

end Undecided

/-! ## Refusals -/

section Refusals

variable {limits : AdmissionLimits} {before after : GatewayDb} {label : AdmissionLabel}
  {labels : List AdmissionLabel}

def Retryable (db : GatewayDb) : Prop :=
  ∀ row ∈ db.feederRefusals.rows,
    1 ≤ row.refusal.retryAfterSeconds ∧ row.refusal.retryAfterSeconds ≤ 86400

theorem retryable_empty : Retryable .empty := by
  intro row member
  cases member

theorem Retryable.step (retryable : Retryable before)
    (step : AdmissionStep limits before label after) : Retryable after := by
  rcases label with ⟨call, result⟩
  cases call with
  | beginRequest requestId safetyRefusal checkedAt insertedAt =>
      simp only [AdmissionStep, AdmissionCall.execute] at step
      split at step
      · rename_i outcome committed ran
        cases step
        rcases beginRequest_cases ran with ⟨_, rfl, _⟩ | ⟨refusal, rfl, refuses⟩ |
          ⟨_, _, _, reserves⟩
        · exact retryable
        · cases refuses with
          | refuses undecided fresh =>
            rcases (beginRequest_refused ran undecided).2 with ⟨_, _, isRefusal, _⟩
            intro row member
            rcases (Table.mem_rows_insert fresh).mp member with old | rfl
            · exact retryable row old
            · exact newRefusal_bounds isRefusal
        · cases reserves
          exact retryable
      · cases step
        exact retryable
  | acknowledge requestId now =>
      simp only [AdmissionStep, AdmissionCall.execute] at step
      cases step
      intro row member
      rw [(rows_acknowledge requestId now before).2] at member
      exact retryable row member

theorem Retryable.of_run (retryable : Retryable before)
    (run : AdmissionRun limits before labels after) : Retryable after :=
  run.invariant Retryable.step retryable

theorem not_isPending_iff {db : GatewayDb} :
    db.isPending = false ↔ ∀ row ∈ db.feederRequests.rows, row.status = .acknowledged := by
  rw [GatewayDb.isPending, List.any_eq_false]
  refine forall₂_congr fun row _ => ?_
  cases row.status <;> simp

/-- While nothing is pending and nothing is admitted the requests stay as they are. -/
theorem requests_of_quiet (run : AdmissionRun limits before labels after)
    (idle : before.isPending = false) (quiet : ∀ label ∈ labels, label.admission = none) :
    after.feederRequests = before.feederRequests := by
  induction run with
  | nil => rfl
  | @cons before middle after label labels step _ induction =>
      have same : middle.feederRequests = before.feederRequests := by
        cases admissionStep_effect step with
        | nothing => rfl
        | refuses _ refuses =>
            cases refuses
            rfl
        | acknowledges acknowledges =>
            cases acknowledges with
            | acknowledges reserved =>
              rcases statusStr_eq_some.mp (decision_reserved.mp reserved) with
                ⟨row, member, _, isPending⟩
              rw [not_isPending_iff.mp idle row member] at isPending
              cases isPending
        | admits => cases quiet _ List.mem_cons_self
      have stillIdle : middle.isPending = false := by
        rw [GatewayDb.isPending, same]
        exact idle
      rw [induction stillIdle fun other member => quiet other (List.mem_cons_of_mem _ member), same]

end Refusals

/-! ## The cooldown of the ledger -/

def refusedStatus (row : FeederRefusal) : FeedRequestStatus :=
  ⟨row.requestId, .notDispatched, some row.refusal⟩

theorem validate_refusedStatus {row : FeederRefusal}
    (bounds : 1 ≤ row.refusal.retryAfterSeconds ∧ row.refusal.retryAfterSeconds ≤ 86400) :
    (refusedStatus row).validate row.requestId = .ok () := by
  rw [FeedRequestStatus.validate, refusedStatus, ensure_of rfl, ok_bind]
  exact ensure_of bounds

theorem notDispatched_affects {attempt : FeedAttempt} {ledger : Db} (now : Int)
    (member : attempt ∈ ledger.feedAttempts.rows)
    (unresolved : attempt.status.isUnresolved = true) :
    (updateAttempts (.notDispatched attempt.id now) ledger).2 = 1 := by
  have nodup := ledger.feedAttempts.rows_nodup fun _ => .inl (sameKey_iff.mpr ⟨_, rfl, rfl⟩)
  refine List.length_eq_one_iff.mpr ⟨attempt, filter_eq_singleton nodup member ?_ ?_⟩
  · exact Bool.and_eq_true_iff.mpr ⟨decide_eq_true rfl, unresolved⟩
  · intro other otherMember selected
    have sameId := of_decide_eq_true (Bool.and_eq_true_iff.mp selected).1
    exact ledger.feedAttempts.row_eq_of_clash otherMember member
      (.inl (sameKey_iff.mpr ⟨_, congrArg some sameId, rfl⟩))

theorem resolveFeedNotDispatched_accepts {attempt : FeedAttempt} {ledger : Db} {retry : Nat}
    (now : Int) (bounds : 1 ≤ retry ∧ retry ≤ 86400)
    (member : attempt ∈ ledger.feedAttempts.rows)
    (unresolved : attempt.status.isUnresolved = true) :
    ∃ resolved, resolveFeedNotDispatched attempt.id retry now ledger = .ok ((), resolved) := by
  rw [resolveFeedNotDispatched, ensure_of bounds, ok_bind]
  dsimp only
  rw [ensure_of (notDispatched_affects now member unresolved), ok_bind]
  exact ⟨_, rfl⟩

/-! ## The retry time -/

/-- A capacity refusal decided at `checkedAt` is exact: until it has run out a fresh
request is refused, and from then on it is admitted. Every stored refusal is one
that the client and the ledger accept. -/
theorem capacity_retry_exact {limits : AdmissionLimits} {labels : List AdmissionLabel}
    {db : GatewayDb} (run : AdmissionRun limits .empty labels db)
    (clock : (labels.flatMap AdmissionLabel.readings).Pairwise (· ≤ ·)) :
    (∀ requestId (checkedAt insertedAt : Int) retry refused, NotBehind labels checkedAt →
      decision requestId db = .undecided →
      beginRequest requestId limits false checkedAt insertedAt db =
        .ok (.notDispatched ⟨.capacity, retry⟩, refused) → retry < 86400 →
      ∀ quiet later, AdmissionRun limits refused quiet later →
        (∀ label ∈ quiet, label.admission = none) →
        ∀ other (laterAt laterInserted : Int), checkedAt ≤ laterAt →
          decision other later = .undecided →
          (laterAt < checkedAt + retry → ∃ refusal after,
            beginRequest other limits false laterAt laterInserted later =
              .ok (.notDispatched refusal, after)) ∧
          (checkedAt + retry ≤ laterAt → ∃ after,
            beginRequest other limits false laterAt laterInserted later = .ok (.new, after))) ∧
    ∀ row ∈ db.feederRefusals.rows,
      (refusedStatus row).validate row.requestId = .ok () ∧
      ∀ (ledger : Db) (attempt : FeedAttempt) (now : Int),
        attempt ∈ ledger.feedAttempts.rows → attempt.status.isUnresolved = true →
          ∃ resolved, resolveFeedNotDispatched attempt.id row.refusal.retryAfterSeconds now
            ledger = .ok ((), resolved) := by
  constructor
  · intro requestId checkedAt insertedAt retry refused notBehind undecided ran below quiet later
      rest none other laterAt laterInserted notBefore otherUndecided
    rcases beginRequest_refused ran undecided with
      ⟨⟨fits, safe⟩, delay, delayed, isRefusal, refuses⟩
    rcases newRefusal_capacity isRefusal with ⟨idle, positive, isRetry⟩
    have isDelay : (retry : Int) = delay := by omega
    have same : later.feederRequests = db.feederRequests := by
      cases refuses
      have unchanged := requests_of_quiet rest idle none
      exact unchanged
    have stillIdle : later.isPending = false := by
      rw [GatewayDb.isPending, same]
      exact idle
    have bounded := Nat.le_trans (withinHour_le_counted checkedAt db)
      (counted_of_run run clock notBehind)
    rcases admissionDelay_exact delayed positive bounded notBefore with
      ⟨left, isLeft, running, finished⟩
    rw [← same] at isLeft
    rcases @beginRequest_undecided limits false other laterAt laterInserted left later fits safe
      otherUndecided isLeft with ⟨after, answered⟩
    rw [stillIdle] at answered
    constructor
    · intro early
      have stillPositive : 0 < left := running (by omega)
      refine ⟨⟨.capacity, min left.toNat 86400⟩, after, ?_⟩
      rw [answered, newRefusal]
      simp [stillPositive]
    · intro passed
      have isOver : left = 0 := finished (by omega)
      refine ⟨after, ?_⟩
      rw [answered, newRefusal]
      simp [isOver]
  · intro row member
    have bounds := retryable_empty.of_run run row member
    exact ⟨validate_refusedStatus bounds, fun ledger attempt now isAttempt unresolved =>
      resolveFeedNotDispatched_accepts now bounds isAttempt unresolved⟩

/-- One request an hour. The second is refused with 3591 seconds to wait. -/
def exampleCapacity : List AdmissionCall :=
  [.beginRequest ⟨1⟩ false 100 100, .acknowledge ⟨1⟩ 100, .beginRequest ⟨2⟩ false 110 110]

theorem capacity_retry_exact_example :
    let db := replayAdmissions ⟨5, 1⟩ (exampleCapacity.take 2) .empty
    let refused := replayAdmissions ⟨5, 1⟩ exampleCapacity .empty
    beginRequest ⟨2⟩ ⟨5, 1⟩ false 110 110 db = .ok (.notDispatched ⟨.capacity, 3591⟩, refused) ∧
      (∃ refusal after, beginRequest ⟨3⟩ ⟨5, 1⟩ false 3700 3700 refused =
        .ok (.notDispatched refusal, after)) ∧
      ∃ after, beginRequest ⟨3⟩ ⟨5, 1⟩ false 3701 3701 refused = .ok (.new, after) := by
  intro db refused
  have exact := (capacity_retry_exact
    (replayAdmissions_run ⟨5, 1⟩ (exampleCapacity.take 2) GatewayDb.empty) (by decide +kernel)).1
    ⟨2⟩ 110 110 3591 refused (by unfold NotBehind; decide +kernel) (by decide +kernel) rfl
    (by decide) [] refused (.nil _) (by simp) ⟨3⟩
  exact ⟨rfl, (exact 3700 3700 (by decide) (by decide +kernel)).1 (by decide),
    (exact 3701 3701 (by decide) (by decide +kernel)).2 (by decide)⟩

/-- A replayed tombstone is answered with the time it was stored with, although
there is room again. -/
theorem capacity_retry_of_replay :
    let labels := admissionLabels ⟨5, 1⟩ exampleCapacity .empty
    let db := replayAdmissions ⟨5, 1⟩ exampleCapacity .empty
    AdmissionRun ⟨5, 1⟩ .empty labels db ∧
      (labels.flatMap AdmissionLabel.readings).Pairwise (· ≤ ·) ∧ NotBehind labels 3701 ∧
      beginRequest ⟨2⟩ ⟨5, 1⟩ false 3701 3701 db =
        .ok (.notDispatched ⟨.capacity, 3591⟩, db) ∧
      ∃ after, beginRequest ⟨3⟩ ⟨5, 1⟩ false 3701 3701 db = .ok (.new, after) :=
  ⟨replayAdmissions_run ⟨5, 1⟩ exampleCapacity .empty, by decide +kernel,
    by unfold NotBehind; decide +kernel, rfl, _, rfl⟩

end LightningGoats
