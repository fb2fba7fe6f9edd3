import LightningGoats.Ledger.Books

/-! # Feed attempts over whole runs -/

namespace LightningGoats

open Outcome Relational

/-! ## The unresolved attempt -/

theorem unresolved_length_le (db : Db) :
    (db.feedAttempts.rows.filter fun attempt => attempt.status.isUnresolved).length ≤ 1 :=
  filter_length_le_one (db.feedAttempts.rows_nodup fun _ => .inl (sameKey_iff.mpr ⟨_, rfl, rfl⟩))
    fun _ leftMember _ rightMember leftUnresolved rightUnresolved =>
      Books.unresolved_unique leftMember rightMember leftUnresolved rightUnresolved

theorem findUnresolved_eq_none {db : Db} (idle : findUnresolved db = none)
    {attempt : FeedAttempt} (member : attempt ∈ db.feedAttempts.rows) :
    attempt.status.isUnresolved = false := by
  have absent := List.find?_eq_none.mp idle attempt member
  simpa using absent

/-! ## Confirming the unresolved attempt -/

section Confirming

variable {db : Db} {attempt : FeedAttempt} {id : Uuid} {expected : FeedAttemptStatus}

theorem isAttempt_iff {status : FeedAttemptStatus} :
    isAttempt id status attempt = true ↔ attempt.id = id ∧ attempt.status = status := by
  simp [isAttempt]

theorem debit_fresh (books : Books db) (member : attempt ∈ db.feedAttempts.rows)
    (unconfirmed : attempt.status ≠ .confirmed) :
    db.ledgerEntries.Fresh (debitEntry attempt.id attempt.thresholdSats) := by
  intro entry entryMember clashes
  have sameKey : entry.sourceKey = feedKey attempt.id := by
    rcases sameKey_iff.mp clashes with ⟨key, entryKey, debitKey⟩
    exact Option.some.inj (entryKey.trans debitKey.symm)
  cases books.counterparts entry entryMember with
  | settlement row settled isEntry =>
      subst isEntry
      exact paymentKey_ne_feedKey _ _ _ sameKey
  | debit other attempted confirmed isEntry =>
      subst isEntry
      have sameId := feedKey_inj.mp sameKey
      have same : other = attempt := db.feedAttempts.row_eq_of_clash attempted member
        (.inl (sameKey_iff.mpr ⟨_, rfl, by rw [sameId]⟩))
      exact unconfirmed (same ▸ confirmed)
  | grant grant valuation granted isEntry =>
      subst isEntry
      exact feedKey_ne_receiptKey _ _ sameKey.symm

theorem feedCredit_debited (books : Books db) {entry : LedgerEntry} {credit : Nat}
    (fresh : db.ledgerEntries.Fresh entry) (read : feedCreditInTransaction db = .ok credit)
    (isDebit : entry.deltaSats ≤ 0) (covered : 0 ≤ credit + entry.deltaSats) :
    feedCreditInTransaction { db with ledgerEntries := db.ledgerEntries.insert entry fresh } =
      .ok (credit + entry.deltaSats).toNat := by
  have bounded := books.bounded
  have total := feedCredit_total read
  rw [feedCredit_eq_ok, sqlSum_eq_ok] at read ⊢
  rw [Table.rows_insert, List.map_append, List.map_cons, List.map_nil, CheckedSum.sum_concat,
    read]
  have low : -maxI64 - 1 ≤ (0 : Int) := by decide
  exact CheckedSum.add_eq_some.mpr ⟨by omega, by omega, by omega⟩

theorem resolveAsFed_ok (books : Books db) (member : attempt ∈ db.feedAttempts.rows)
    (selected : isAttempt id expected attempt = true)
    (unresolved : expected.isUnresolved = true) (now : Int) :
    ∃ after, resolveAsFed id expected unresolved now db = .ok ((), after) := by
  rcases isAttempt_iff.mp selected with ⟨rfl, isExpected⟩
  have isUnresolved : attempt.status.isUnresolved = true := by rw [isExpected, unresolved]
  have found : db.feedAttempts.rows.find? (isAttempt attempt.id expected) = some attempt := by
    refine db.feedAttempts.find?_eq_some_of_clash _ member selected ?_
    intro left right leftSelected rightSelected
    have leftId := (isAttempt_iff.mp leftSelected).1
    have rightId := (isAttempt_iff.mp rightSelected).1
    exact .inl (sameKey_iff.mpr ⟨attempt.id, by rw [leftId], by rw [rightId]⟩)
  have positive := (books.thresholds attempt member).1
  rcases books.readable with ⟨credit, read⟩
  have covered : attempt.thresholdSats ≤ credit := by
    rw [feedCredit_total read]
    exact books.covered attempt member isUnresolved
  have one : (updateAttempts (.fed attempt.id expected unresolved now) db).2 = 1 := by
    have nodup := db.feedAttempts.rows_nodup fun row => .inl (sameKey_iff.mpr ⟨_, rfl, rfl⟩)
    refine List.length_eq_one_iff.mpr ⟨attempt, filter_eq_singleton nodup member selected ?_⟩
    intro other otherMember otherSelected
    exact Books.unresolved_unique otherMember member
      (unresolved_of_isAttempt unresolved other otherSelected) isUnresolved
  have entryFresh := debit_fresh books member fun confirmed => by
    rw [confirmed] at isUnresolved
    cases isUnresolved
  have debited := feedCredit_debited books entryFresh read
    (by simp only [debitEntry]; omega) (by simp only [debitEntry]; omega)
  simp only [resolveAsFed, bind_eq_ok, require_eq_ok, toU64_eq_ok, ensure_eq_ok,
    Prod.exists, insertRow_eq_ok, pure_eq_ok, Prod.mk.injEq, true_and]
  exact ⟨_, attempt, found, attempt.thresholdSats.toNat, by omega, credit, read, .unit, by omega,
    .unit, one, _, _, ⟨rfl, entryFresh, rfl⟩, _, debited, rfl⟩

/-- The only reason not to confirm an attempt is that it is not in the
expected state. -/
theorem resolveAsFed_error (books : Books db) {unresolved : expected.isUnresolved = true}
    {now : Int} {error : LedgerError}
    (failed : resolveAsFed id expected unresolved now db = .error error) :
    error = .attemptNotIn id expected.asStr := by
  cases search : db.feedAttempts.rows.find? (isAttempt id expected) with
  | some attempt =>
      have member := List.mem_of_find?_eq_some search
      have selected := List.find?_some search
      rcases resolveAsFed_ok books member selected unresolved now with ⟨after, succeeded⟩
      rw [succeeded] at failed
      cases failed
  | none =>
      rw [resolveAsFed, search] at failed
      cases failed
      rfl

theorem execute_confirms_error [SerdeJson] (books : Books db) {call : LedgerCall}
    (confirms : call = .confirmFeedAttempt id ∨ call = .reconcileUnknownAsFed id)
    {now : Int} {error : LedgerError} (failed : (execute call now db).1 = .error error) :
    error.reportsViolation = false := by
  rw [execute_error] at failed
  rcases confirms with rfl | rfl
  · simp only [LedgerCall.body, transact_error] at failed
    rw [resolveAsFed_error books failed]
    rfl
  · simp only [LedgerCall.body, transact_error] at failed
    rw [resolveAsFed_error books failed]
    rfl

end Confirming

/-! ## What only grows -/

theorem resolved_stays {scope : Scope} {before after : Db} {attempt : FeedAttempt}
    (resolved : attempt.status.isUnresolved = false)
    (member : attempt ∈ before.feedAttempts.rows) :
    (Quiet scope before after → attempt ∈ after.feedAttempts.rows) ∧
      (Booking scope before after → attempt ∈ after.feedAttempts.rows) := by
  have updated : ∀ update : AttemptUpdate, attempt ∈ (before.feedAttempts.update update.apply
      update.clash_of_apply).rows := by
    intro update
    rw [Table.rows_update]
    exact List.mem_map.mpr ⟨attempt, member, update.apply_of_resolved resolved⟩
  constructor
  · intro quiet
    cases quiet with
    | registers registers => cases registers; exact member
    | holds _ holds => cases holds; exact member
    | stores stores => cases stores; exact member
    | unlocks => exact member
    | grantsDust grants => cases grants; exact member
    | begins begins =>
        cases begins with
        | intro _ _ _ _ _ _ fresh => exact Table.mem_rows_insert_old fresh member
    | moves moves => cases moves with | intro update _ => exact updated update
    | cools => exact member
    | logs logs => cases logs; exact member
    | strike => exact member
  · intro booking
    cases booking with
    | settles settles => cases settles; exact member
    | grants grants => cases grants; exact member
    | debits debits => cases debits; exact updated _
    | announces announces => cases announces; exact member

theorem cooldown_grows {scope : Scope} {before after : Db} :
    (Quiet scope before after → before.feederCooldown ≤ after.feederCooldown) ∧
      (Booking scope before after → before.feederCooldown ≤ after.feederCooldown) := by
  constructor
  · intro quiet
    cases quiet with
    | registers registers => cases registers; exact Int.le_refl _
    | holds _ holds => cases holds; exact Int.le_refl _
    | stores stores => cases stores; exact Int.le_refl _
    | unlocks => exact Int.le_refl _
    | grantsDust grants => cases grants; exact Int.le_refl _
    | begins begins => cases begins; exact Int.le_refl _
    | moves moves => cases moves; exact Int.le_refl _
    | cools _ _ later => exact later
    | logs logs => cases logs; exact Int.le_refl _
    | strike => exact Int.le_refl _
  · intro booking
    cases booking with
    | settles settles => cases settles; exact Int.le_refl _
    | grants grants => cases grants; exact Int.le_refl _
    | debits debits => cases debits; exact Int.le_refl _
    | announces announces => cases announces; exact Int.le_refl _

section Runs

variable [SerdeJson] {before after : Db} {labels : List LedgerLabel}

theorem resolved_stays_run (run : LedgerRun before labels after) {attempt : FeedAttempt}
    (resolved : attempt.status.isUnresolved = false)
    (member : attempt ∈ before.feedAttempts.rows) : attempt ∈ after.feedAttempts.rows :=
  ledgerRun_invariant (fun member => (resolved_stays resolved member).1)
    (fun member => (resolved_stays resolved member).2) run member

theorem cooldown_reached_run (run : LedgerRun before labels after) {resume : Int}
    (reached : resume ≤ before.feederCooldown) : resume ≤ after.feederCooldown :=
  ledgerRun_invariant (fun reached quiet => Int.le_trans reached (cooldown_grows.1 quiet))
    (fun reached booking => Int.le_trans reached (cooldown_grows.2 booking)) run reached

theorem cooldown_of_resolved (run : LedgerRun before labels after) {id : Uuid}
    {retryAfterSeconds : Nat} {now : Int}
    (resolved : ⟨.resolveFeedNotDispatched id retryAfterSeconds, now, .ok .done⟩ ∈ labels) :
    now + retryAfterSeconds ≤ after.feederCooldown := by
  rcases List.append_of_mem resolved with ⟨earlier, later, rfl⟩
  rcases run.at_split with ⟨source, target, _, step, rest⟩
  refine cooldown_reached_run rest ?_
  rcases ledgerStep_cases step with ⟨_, failed, _⟩ | ⟨_, _, ran⟩
  · cases failed
  · simp only [LedgerCall.body, transact_eq_ok] at ran
    rcases ran with ⟨_, ran, _⟩
    cases (resolveNotDispatched_cases ran).2
    exact Int.le_max_right _ _

end Runs

/-- In every reachable state at most one attempt is unresolved, and the balance
covers it, so confirming it never reports a broken invariant. Resolved attempts
never change. An attempt was begun only when none was unresolved, the balance
reached its threshold, and every cooldown set before had passed. -/
theorem feedAttempts_safe [SerdeJson] {labels : List LedgerLabel} {db : Db}
    (run : LedgerRun Db.fresh labels db) :
    (db.feedAttempts.rows.filter fun attempt => attempt.status.isUnresolved).length ≤ 1 ∧
    (∀ attempt ∈ db.feedAttempts.rows, attempt.status.isUnresolved = true →
      ∃ credit : Nat, feedCreditInTransaction db = .ok credit ∧
        attempt.thresholdSats ≤ credit) ∧
    (∀ id now error, (execute (.confirmFeedAttempt id) now db).1 = .error error ∨
        (execute (.reconcileUnknownAsFed id) now db).1 = .error error →
      error.reportsViolation = false) ∧
    (∀ attempt ∈ db.feedAttempts.rows,
      attempt.status = .confirmed ∨ attempt.status = .reconciledNotFed →
      ∀ laterLabels later, LedgerRun db laterLabels later →
        attempt ∈ later.feedAttempts.rows) ∧
    ∀ earlier later thresholdSats drawn id (now : Int), labels = earlier ++
        ⟨.beginFeedAttempt thresholdSats drawn, now, .ok (.attempt (some id))⟩ :: later →
      ∃ source, LedgerRun Db.fresh earlier source ∧
        (∀ attempt ∈ source.feedAttempts.rows, attempt.status.isUnresolved = false) ∧
        (∃ credit, feedCreditInTransaction source = .ok credit ∧ thresholdSats ≤ credit) ∧
        ∀ resolved (retryAfterSeconds : Nat) (resolvedAt : Int),
          ⟨.resolveFeedNotDispatched resolved retryAfterSeconds, resolvedAt, .ok .done⟩ ∈ earlier →
            resolvedAt + retryAfterSeconds ≤ now := by
  have books := Books.of_run run
  refine ⟨unresolved_length_le db, ?_, ?_, ?_, ?_⟩
  · intro attempt member isUnresolved
    rcases books.readable with ⟨credit, read⟩
    refine ⟨credit, read, ?_⟩
    rw [feedCredit_total read]
    exact books.covered attempt member isUnresolved
  · rintro id now error (failed | failed)
    · exact execute_confirms_error books (.inl rfl) failed
    · exact execute_confirms_error books (.inr rfl) failed
  · intro attempt member isResolved laterLabels later laterRun
    have resolved : attempt.status.isUnresolved = false := by
      rcases isResolved with status | status
      · rw [status]
        rfl
      · rw [status]
        rfl
    exact resolved_stays_run laterRun resolved member
  · rintro earlier later thresholdSats drawn id now rfl
    rcases run.at_split with ⟨source, target, first, step, _⟩
    refine ⟨source, first, ?_⟩
    rcases ledgerStep_cases step with ⟨_, failed, _⟩ | ⟨_, succeeded, ran⟩
    · cases failed
    · simp only [LedgerCall.body, transact_eq_ok] at ran
      rcases ran with ⟨drawnId, ran, isResponse⟩
      cases succeeded
      cases isResponse
      rcases beginFeedAttempt_cases ran with ⟨impossible, _⟩ | ⟨_, begins⟩
      · cases impossible
      · cases begins with
        | intro _ _ idle cooled read covered _ =>
          refine ⟨fun attempt member => findUnresolved_eq_none idle member,
            ⟨_, read, covered⟩, ?_⟩
          intro resolved retryAfterSeconds resolvedAt wasResolved
          exact Int.le_trans (cooldown_of_resolved first wasResolved) cooled

/-- The run of the example, without its confirmation, leaves an attempt of 3
sats on a balance of 6. -/
theorem feedAttempts_safe_example :
    let calls := exampleCalls.take 4
    let db := @replay exampleJson calls Db.fresh
    (db.feedAttempts.rows.filter fun attempt => attempt.status.isUnresolved).length = 1 ∧
      ∀ attempt ∈ db.feedAttempts.rows, attempt.status.isUnresolved = true →
        ∃ credit : Nat, feedCreditInTransaction db = .ok credit ∧
          attempt.thresholdSats ≤ credit :=
  ⟨by decide +kernel, (@feedAttempts_safe exampleJson _ _
    (@replay_run exampleJson (exampleCalls.take 4) Db.fresh)).2.1⟩

end LightningGoats
