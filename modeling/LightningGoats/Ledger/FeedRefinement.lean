import LightningGoats.Domain.Feed
import LightningGoats.Ledger.Attempts
import LightningGoats.Ledger.Settlements

/-! # The ledger refines the feed state machine

With one threshold and no cooldown in force, the rows and the sum of the ledger
behave as the runtime in memory does, call by call.
-/

namespace LightningGoats

open Outcome Relational

/-! ## The two machines -/

/-- A call of the feed state machine. A credit is a settled payment, and an attempt
begins under the identifier that is drawn for it. -/
inductive FeedCall
  | credit (payment : SettledPayment)
  | beginNextFeed (drawn : Uuid)
  | confirmFeed (id : Uuid)
  | markFeedUnknown (id : Uuid) (error : String)
  | reconcileUnknownAsFed (id : Uuid)
  | reconcileUnknownAsNotFed (id : Uuid)

namespace FeedCall

def stored (thresholdSats : Nat) : FeedCall → LedgerCall
  | credit payment => .recordPayment payment
  | beginNextFeed drawn => .beginFeedAttempt thresholdSats drawn
  | confirmFeed id => .confirmFeedAttempt id
  | markFeedUnknown id error => .markFeedUnknown id error
  | reconcileUnknownAsFed id => .reconcileUnknownAsFed id
  | reconcileUnknownAsNotFed id => .reconcileUnknownAsNotFed id

def ran (runtime : FeedRuntime) : FeedCall → Except FeedError FeedRuntime
  | credit payment => runtime.credit payment.sats
  | beginNextFeed drawn => runtime.beginNextFeed false drawn
  | confirmFeed id => runtime.confirmFeed id
  | markFeedUnknown id _ => runtime.markFeedUnknown id
  | reconcileUnknownAsFed id => runtime.reconcileUnknownAsFed id
  | reconcileUnknownAsNotFed id => runtime.reconcileUnknownAsNotFed id

def next (runtime : FeedRuntime) (call : FeedCall) : FeedRuntime :=
  match call.ran runtime with
  | .ok moved => moved
  | .error _ => runtime

end FeedCall

/-- One call succeeds in both machines or in neither. The store reports that no feed
is due by beginning none. -/
def Agree : Except LedgerError LedgerResponse → Except FeedError FeedRuntime → Prop
  | .ok (.attempt none), outcome => outcome = .error .noFeedDue
  | .ok _, outcome => ∃ moved, outcome = .ok moved
  | .error _, outcome => ∃ error, outcome = .error error ∧ error ≠ .noFeedDue

def ActiveStatus.stored : ActiveStatus → StoredFeedAttemptStatus
  | intentCommitted => .intentCommitted
  | unknown => .unknown

def ActiveStatus.row : ActiveStatus → FeedAttemptStatus
  | intentCommitted => .intentCommitted
  | unknown => .unknown

def Shows (thresholdSats : Nat) (db : Db) (runtime : FeedRuntime) : Prop :=
  feedCreditSats db = .ok runtime.ledger.creditSats ∧
    unresolvedFeedAttempt db = .ok (runtime.activeAttempt.map fun attempt =>
      ⟨attempt.id, attempt.status.stored, thresholdSats⟩)

/-- The calls agree, and the reads show the runtime before and after each of them. -/
def Lockstep [SerdeJson] (thresholdSats : Nat) :
    List (FeedCall × Int) → Db → FeedRuntime → Prop
  | [], db, runtime => Shows thresholdSats db runtime
  | (call, now) :: rest, db, runtime =>
      Shows thresholdSats db runtime ∧
        Agree (execute (call.stored thresholdSats) now db).1 (call.ran runtime) ∧
        Lockstep thresholdSats rest (execute (call.stored thresholdSats) now db).2
          (call.next runtime)

/-- What a call comes with: a credit is a valid payment that has not been settled and
that the database has room for, a drawn identifier has not been drawn before, and no
cooldown is in force. -/
def FeedCall.Ready [SerdeJson] (now : Int) (db : Db) : FeedCall → Prop
  | credit payment =>
      payment.Accepted ∧ payment.IsNew db ∧ creditTotal db + payment.sats ≤ maxI64
  | beginNextFeed drawn =>
      (∀ attempt ∈ db.feedAttempts.rows, attempt.id ≠ drawn) ∧ db.feederCooldown ≤ now
  | _ => True

def AllReady [SerdeJson] (thresholdSats : Nat) : List (FeedCall × Int) → Db → Prop
  | [], _ => True
  | (call, now) :: rest, db =>
      call.Ready now db ∧
        AllReady thresholdSats rest (execute (call.stored thresholdSats) now db).2

/-! ## The simulation -/

def ActiveRow (thresholdSats : Nat) (db : Db) : Option ActiveAttempt → Prop
  | none => ∀ attempt ∈ db.feedAttempts.rows, attempt.status.isUnresolved = false
  | some active => ∃ row ∈ db.feedAttempts.rows, row.id = active.id ∧
      row.status = active.status.row ∧ row.thresholdSats = thresholdSats

structure Simulates (thresholdSats : Nat) (db : Db) (runtime : FeedRuntime) : Prop where
  books : Books db
  tables : CreditTables db
  threshold : runtime.ledger.thresholdSats = thresholdSats
  credit : feedCreditInTransaction db = .ok runtime.ledger.creditSats
  active : ActiveRow thresholdSats db runtime.activeAttempt

theorem ActiveStatus.row_isUnresolved (status : ActiveStatus) :
    status.row.isUnresolved = true := by
  cases status <;> rfl

theorem ActiveStatus.row_injective {left right : ActiveStatus} (same : left.row = right.row) :
    left = right := by
  cases left <;> cases right <;> first | rfl | cases same

section Active

variable {thresholdSats : Nat} {db : Db} {active : Option ActiveAttempt}

theorem findUnresolved_of_mem {row : FeedAttempt} (member : row ∈ db.feedAttempts.rows)
    (unresolved : row.status.isUnresolved = true) : findUnresolved db = some row := by
  refine db.feedAttempts.find?_eq_some_of_clash _ member unresolved ?_
  intro left right leftUnresolved rightUnresolved
  exact .inr (sameKey_iff.mpr ⟨(), by rw [if_pos leftUnresolved], by rw [if_pos rightUnresolved]⟩)

theorem findUnresolved_of_idle (idle : ActiveRow thresholdSats db none) :
    findUnresolved db = none :=
  List.find?_eq_none.mpr fun attempt member => by simp [idle attempt member]

theorem ActiveRow.row_iff (rows : ActiveRow thresholdSats db active) {id : Uuid}
    {expected : ActiveStatus} :
    (∃ row ∈ db.feedAttempts.rows, isAttempt id expected.row row = true) ↔
      active = some ⟨id, expected⟩ := by
  constructor
  · rintro ⟨row, member, selected⟩
    rcases isAttempt_iff.mp selected with ⟨rfl, isExpected⟩
    have unresolved : row.status.isUnresolved = true := by
      rw [isExpected, expected.row_isUnresolved]
    cases active with
    | none =>
        rw [rows row member] at unresolved
        cases unresolved
    | some attempt =>
        rcases rows with ⟨found, foundMember, sameId, sameStatus, _⟩
        have same := Books.unresolved_unique foundMember member
          (by rw [sameStatus, attempt.status.row_isUnresolved]) unresolved
        subst same
        rcases attempt with ⟨attemptId, status⟩
        cases ActiveStatus.row_injective (sameStatus.symm.trans isExpected)
        cases sameId
        rfl
  · rintro rfl
    rcases rows with ⟨row, member, sameId, sameStatus, _⟩
    exact ⟨row, member, isAttempt_iff.mpr ⟨sameId, sameStatus⟩⟩

theorem Simulates.shows {runtime : FeedRuntime} (simulates : Simulates thresholdSats db runtime) :
    Shows thresholdSats db runtime := by
  refine ⟨simulates.credit, ?_⟩
  have rows := simulates.active
  unfold unresolvedFeedAttempt
  cases isActive : runtime.activeAttempt with
  | none =>
      rw [isActive] at rows
      rw [findUnresolved_of_idle rows]
      rfl
  | some attempt =>
      rw [isActive] at rows
      rcases rows with ⟨row, member, sameId, sameStatus, sameThreshold⟩
      have unresolved : row.status.isUnresolved = true := by
        rw [sameStatus, attempt.status.row_isUnresolved]
      have threshold : toU64 row.thresholdSats "threshold_sats" = .ok thresholdSats :=
        toU64_eq_ok.mpr sameThreshold
      have read : readUnresolved row = .ok ⟨attempt.id, attempt.status.stored, thresholdSats⟩ := by
        unfold readUnresolved
        rw [threshold, sameId, sameStatus]
        cases attempt.status <;> rfl
      rw [findUnresolved_of_mem member unresolved]
      exact bind_eq_ok.mpr ⟨_, read, rfl⟩

end Active

/-! ## Moving the active attempt -/

section Moving

variable {thresholdSats : Nat} {before after : Db} {active : ActiveAttempt}
  {update : AttemptUpdate}

theorem rows_applied (update : AttemptUpdate) (table : Table FeedAttempt.Clash) :
    (table.update update.apply update.clash_of_apply).rows = table.rows.map update.apply := by
  simp

theorem ActiveRow.resolve (rows : ActiveRow thresholdSats before (some active))
    (moved : after.feedAttempts.rows = before.feedAttempts.rows.map update.apply)
    (selects : ∀ row, isAttempt active.id active.status.row row = true →
      update.selected row = true)
    (resolves : ∀ row, (update.assign row).status.isUnresolved = false) :
    ActiveRow thresholdSats after none := by
  rcases rows with ⟨row, member, sameId, sameStatus, _⟩
  intro attempt isMoved
  rw [moved] at isMoved
  rcases List.mem_map.mp isMoved with ⟨old, oldMember, rfl⟩
  unfold AttemptUpdate.apply
  split
  · exact resolves old
  · rename_i notSelected
    by_contra unresolved
    have same := Books.unresolved_unique member oldMember
      (by rw [sameStatus, active.status.row_isUnresolved]) (by simpa using unresolved)
    subst same
    exact notSelected (selects row (isAttempt_iff.mpr ⟨sameId, sameStatus⟩))

theorem ActiveRow.move (rows : ActiveRow thresholdSats before (some active))
    {status : ActiveStatus}
    (moved : after.feedAttempts.rows = before.feedAttempts.rows.map update.apply)
    (selects : ∀ row, isAttempt active.id active.status.row row = true →
      update.selected row = true)
    (assigns : ∀ row, (update.assign row).status = status.row) :
    ActiveRow thresholdSats after (some ⟨active.id, status⟩) := by
  rcases rows with ⟨row, member, sameId, sameStatus, sameThreshold⟩
  have selected := selects row (isAttempt_iff.mpr ⟨sameId, sameStatus⟩)
  refine ⟨update.apply row, ?_, ?_, ?_, ?_⟩
  · rw [moved]
    exact List.mem_map_of_mem member
  · rw [AttemptUpdate.apply_id, sameId]
  · rw [AttemptUpdate.apply, if_pos selected, assigns]
  · rw [AttemptUpdate.apply_thresholdSats, sameThreshold]

theorem affected_eq_one {id : Uuid} {expected : ActiveStatus}
    (selected : ∀ row, update.selected row = isAttempt id expected.row row)
    (found : ∃ row ∈ before.feedAttempts.rows, isAttempt id expected.row row = true) :
    (updateAttempts update before).2 = 1 := by
  rcases found with ⟨row, member, isSelected⟩
  have nodup := before.feedAttempts.rows_nodup fun _ => .inl (sameKey_iff.mpr ⟨_, rfl, rfl⟩)
  refine List.length_eq_one_iff.mpr ⟨row, filter_eq_singleton nodup member
    ((selected row).trans isSelected) ?_⟩
  intro other otherMember otherSelected
  exact before.feedAttempts.row_eq_of_clash otherMember member
    (.inl (sameKey_iff.mpr ⟨id, congrArg some (isAttempt_iff.mp
      ((selected other).symm.trans otherSelected)).1, congrArg some
        (isAttempt_iff.mp isSelected).1⟩))

theorem affected_eq_zero {active : Option ActiveAttempt} {id : Uuid} {expected : ActiveStatus}
    (rows : ActiveRow thresholdSats before active)
    (selected : ∀ row, update.selected row = isAttempt id expected.row row)
    (inactive : active ≠ some ⟨id, expected⟩) : (updateAttempts update before).2 = 0 := by
  refine List.length_eq_zero_iff.mpr (List.filter_eq_nil_iff.mpr fun row member isSelected => ?_)
  exact inactive (rows.row_iff.mp ⟨row, member, (selected row).symm.trans isSelected⟩)

end Moving

/-! ## One call -/

theorem feedCredit_of_total {db : Db} (books : Books db) {credit : Nat}
    (total : creditTotal db = credit) : feedCreditInTransaction db = .ok credit := by
  rcases books.readable with ⟨balance, read⟩
  have same := (feedCredit_total read).trans total
  rw [read, Int.ofNat.inj same]

section Step

variable [SerdeJson] {thresholdSats : Nat} {db : Db} {runtime : FeedRuntime} {call : FeedCall}
  {now : Int}

def Steps (thresholdSats : Nat) (db : Db) (runtime : FeedRuntime) (call : FeedCall) (now : Int) :
    Prop :=
  Agree (execute (call.stored thresholdSats) now db).1 (call.ran runtime) ∧
    Simulates thresholdSats (execute (call.stored thresholdSats) now db).2 (call.next runtime)

theorem Simulates.succeed {after : Db} {moved : FeedRuntime} {response : LedgerResponse}
    (simulates : Simulates thresholdSats db runtime)
    (body : (call.stored thresholdSats).body now db = .ok (response, after))
    (notIdle : response ≠ .attempt none) (ran : call.ran runtime = .ok moved)
    (threshold : moved.ledger.thresholdSats = thresholdSats)
    (credit : creditTotal after = moved.ledger.creditSats)
    (active : ActiveRow thresholdSats after moved.activeAttempt) :
    Steps thresholdSats db runtime call now := by
  have effect := body_effect body
  have books := effect.invariant Books.of_quiet Books.of_booking simulates.books
  have tables := effect.invariant CreditTables.of_quiet CreditTables.of_booking simulates.tables
  have executed : execute (call.stored thresholdSats) now db = (.ok response, after) := by
    unfold execute
    rw [body]
  have isNext : call.next runtime = moved := by
    unfold FeedCall.next
    rw [ran]
  unfold Steps
  rw [executed, isNext, ran]
  refine ⟨?_, books, tables, threshold, feedCredit_of_total books credit, active⟩
  cases response with
  | attempt id =>
      cases id with
      | none => exact absurd rfl notIdle
      | some id => exact ⟨moved, rfl⟩
  | _ => exact ⟨moved, rfl⟩

theorem Simulates.fail {error : LedgerError} {failure : FeedError}
    (simulates : Simulates thresholdSats db runtime)
    (body : (call.stored thresholdSats).body now db = .error error)
    (ran : call.ran runtime = .error failure) (due : failure ≠ .noFeedDue) :
    Steps thresholdSats db runtime call now := by
  have executed : execute (call.stored thresholdSats) now db = (.error error, db) := by
    unfold execute
    rw [body]
  have isNext : call.next runtime = runtime := by
    unfold FeedCall.next
    rw [ran]
  unfold Steps
  rw [executed, isNext]
  exact ⟨⟨failure, ran, due⟩, simulates⟩

theorem Simulates.credits {payment : SettledPayment}
    (simulates : Simulates thresholdSats db runtime)
    (ready : (FeedCall.credit payment).Ready now db) :
    Steps thresholdSats db runtime (.credit payment) now := by
  rcases ready with ⟨accepted, isNew, room⟩
  have balance := feedCredit_total simulates.credit
  rcases recordPayment_new accepted isNew simulates.books simulates.tables room with
    ⟨after, recorded, settles⟩
  have fits : runtime.ledger.creditSats + payment.sats < 2 ^ 64 := by
    have bounded : maxI64 < 2 ^ 64 := by decide
    omega
  have body : ((FeedCall.credit payment).stored thresholdSats).body now db =
      .ok (.settlement (.credited payment.sats payment.addressUser payment.creditPool), after) := by
    simp only [FeedCall.stored, LedgerCall.body, transact_eq_ok]
    exact ⟨_, recorded, rfl⟩
  have ran : (FeedCall.credit payment).ran runtime = .ok { runtime with
      ledger := { runtime.ledger with creditSats := runtime.ledger.creditSats + payment.sats } } :=
    bind_eq_ok.mpr ⟨_, bind_eq_ok.mpr ⟨.unit, ensure_of fits, rfl⟩, rfl⟩
  have total : creditTotal after = creditTotal db + payment.sats := by
    cases settles with
    | intro _ _ entryFresh _ _ _ _ _ _ =>
      exact @Books.creditTotal_insert db { db with
        ledgerEntries := db.ledgerEntries.insert _ entryFresh } _ entryFresh rfl
  refine simulates.succeed body (by simp) ran simulates.threshold ?_ ?_
  · rw [total, ← balance]
    rfl
  · cases settles
    exact simulates.active

theorem Simulates.begins {drawn : Uuid} (simulates : Simulates thresholdSats db runtime)
    (bounded : thresholdSats ≤ maxAccountingUnits)
    (ready : (FeedCall.beginNextFeed drawn).Ready now db) :
    Steps thresholdSats db runtime (.beginNextFeed drawn) now := by
  rcases ready with ⟨notDrawn, cooled⟩
  have nonzero : thresholdSats ≠ 0 := by
    rw [← simulates.threshold]
    exact runtime.ledger.thresholdPositive.ne'
  have threshold : toI64 thresholdSats "threshold_sats" = .ok (thresholdSats : Int) :=
    toI64_eq_ok.mpr ⟨bounded, rfl⟩
  have rows := simulates.active
  cases isActive : runtime.activeAttempt with
  | some active =>
      rw [isActive] at rows
      rcases rows with ⟨row, member, _, sameStatus, _⟩
      have found := findUnresolved_of_mem member
        (by rw [sameStatus, active.status.row_isUnresolved])
      have body : ((FeedCall.beginNextFeed drawn).stored thresholdSats).body now db =
          .error (.unresolvedAttempt row.id row.status.asStr) := by
        simp only [FeedCall.stored, LedgerCall.body, transact_error, beginFeedAttempt,
          ensure_of nonzero, threshold, found]
        rfl
      have ran : (FeedCall.beginNextFeed drawn).ran runtime = .error .attemptAlreadyActive := by
        simp only [FeedCall.ran, FeedRuntime.beginNextFeed, isActive]
        rfl
      exact simulates.fail body ran (by decide)
  | none =>
      rw [isActive] at rows
      have idle := findUnresolved_of_idle rows
      have started : ∀ result, beginFeedAttempt thresholdSats drawn now db = result ↔
          (if runtime.ledger.creditSats < thresholdSats then .ok (none, db)
          else do
            let inserted ← insertRow "feed_attempts" (fun row => 0 < row.thresholdSats)
              db.feedAttempts
              { id := drawn, status := .intentCommitted, thresholdSats := thresholdSats }
            return (some drawn, { db with feedAttempts := inserted.1 })) = result := by
        intro result
        simp only [beginFeedAttempt, ensure_of nonzero, threshold, idle, if_neg cooled.not_gt,
          simulates.credit, bind, Except.bind]
        exact Iff.rfl
      have due := runtime.ledger.feedsDue_eq_zero
      rw [simulates.threshold] at due
      by_cases short : runtime.ledger.creditSats < thresholdSats
      · have executed : execute ((FeedCall.beginNextFeed drawn).stored thresholdSats) now db =
            (.ok (.attempt none), db) := by
          have body : ((FeedCall.beginNextFeed drawn).stored thresholdSats).body now db =
              .ok (.attempt none, db) := by
            simp only [FeedCall.stored, LedgerCall.body, transact_eq_ok]
            exact ⟨none, (started _).mpr (if_pos short), rfl⟩
          unfold execute
          rw [body]
        have ran : (FeedCall.beginNextFeed drawn).ran runtime = .error .noFeedDue := by
          simp only [FeedCall.ran, FeedRuntime.beginNextFeed, isActive, due.mpr short]
          rfl
        have isNext : FeedCall.next runtime (.beginNextFeed drawn) = runtime := by
          unfold FeedCall.next
          rw [ran]
        unfold Steps
        rw [executed, isNext]
        exact ⟨ran, simulates⟩
      · have fresh : db.feedAttempts.Fresh
            { id := drawn, status := .intentCommitted, thresholdSats := thresholdSats } := by
          rintro attempt member (ids | unresolved)
          · rcases sameKey_iff.mp ids with ⟨id, oldId, newId⟩
            exact notDrawn attempt member (Option.some.inj (oldId.trans newId.symm))
          · rcases sameKey_iff.mp unresolved with ⟨_, isUnresolved, _⟩
            rw [rows attempt member] at isUnresolved
            cases isUnresolved
        have inserted : insertRow "feed_attempts" (fun row => 0 < row.thresholdSats)
            db.feedAttempts
            { id := drawn, status := .intentCommitted, thresholdSats := thresholdSats } =
              .ok (_, _) :=
          insertRow_eq_ok.mpr ⟨Int.natCast_pos.mpr (Nat.pos_of_ne_zero nonzero), rfl, fresh, rfl⟩
        have body : ((FeedCall.beginNextFeed drawn).stored thresholdSats).body now db =
            .ok (.attempt (some drawn), { db with
              feedAttempts := db.feedAttempts.insert _ fresh }) := by
          simp only [FeedCall.stored, LedgerCall.body, transact_eq_ok]
          exact ⟨some drawn, (started _).mpr ((if_neg short).trans
            (bind_eq_ok.mpr ⟨_, inserted, rfl⟩)), rfl⟩
        have ran : (FeedCall.beginNextFeed drawn).ran runtime =
            .ok { runtime with activeAttempt := some ⟨drawn, .intentCommitted⟩ } := by
          simp only [FeedCall.ran, FeedRuntime.beginNextFeed, isActive,
            ensure_of (mt due.mp short)]
          rfl
        refine simulates.succeed body (by simp) ran simulates.threshold
          (feedCredit_total simulates.credit).symm ?_
        exact ⟨_, Table.mem_rows_insert_new fresh, rfl, rfl, rfl⟩

/-- Both machines take the debit of an attempt in the expected state, and neither does
otherwise. -/
theorem Simulates.feeds {id : Uuid} {expected : ActiveStatus}
    (simulates : Simulates thresholdSats db runtime)
    (isStored : (call.stored thresholdSats).body now db =
      transact (resolveAsFed id expected.row expected.row_isUnresolved now)
        (fun _ => .done) db)
    (isRan : call.ran runtime = do
      runtime.requireAttempt id expected
      let ledger ← runtime.ledger.debitConfirmedFeed
      return ⟨ledger, none⟩) :
    Steps thresholdSats db runtime call now := by
  have rows := simulates.active
  by_cases isActive : runtime.activeAttempt = some ⟨id, expected⟩
  · rw [isActive] at rows
    rcases rows.row_iff.mpr rfl with ⟨row, member, selected⟩
    have unresolved : row.status.isUnresolved = true := by
      rw [(isAttempt_iff.mp selected).2, expected.row_isUnresolved]
    have isThreshold : row.thresholdSats = thresholdSats := by
      rcases rows with ⟨other, otherMember, _, sameStatus, isThreshold⟩
      rwa [Books.unresolved_unique otherMember member
        (by rw [sameStatus, expected.row_isUnresolved]) unresolved] at isThreshold
    have balance := feedCredit_total simulates.credit
    have covered := simulates.books.covered row member unresolved
    have due : runtime.ledger.thresholdSats ≤ runtime.ledger.creditSats := by
      rw [simulates.threshold]
      omega
    rcases resolveAsFed_ok simulates.books member selected expected.row_isUnresolved now with
      ⟨after, resolved⟩
    have body : (call.stored thresholdSats).body now db = .ok (.done, after) := by
      rw [isStored]
      exact transact_eq_ok.mpr ⟨(), resolved, rfl⟩
    have ran : call.ran runtime = .ok ⟨{ runtime.ledger with
        creditSats := runtime.ledger.creditSats - runtime.ledger.thresholdSats }, none⟩ := by
      rw [isRan]
      exact bind_eq_ok.mpr ⟨(), FeedRuntime.requireAttempt_of isActive, bind_eq_ok.mpr
        ⟨_, bind_eq_ok.mpr ⟨.unit, ensure_of due, rfl⟩, rfl⟩⟩
    cases resolveAsFed_cases resolved with
    | @intro attempt status _ _ isUnresolved debited isSelected _ _ _ entryFresh _ =>
      have same : attempt = row := by
        refine Books.unresolved_unique debited member ?_ unresolved
        rw [(isAttempt_iff.mp isSelected).2, isUnresolved]
      subst same
      have isStatus : status = expected.row :=
        (isAttempt_iff.mp isSelected).2.symm.trans (isAttempt_iff.mp selected).2
      subst isStatus
      have total := @Books.creditTotal_insert db { db with
        ledgerEntries := db.ledgerEntries.insert _ entryFresh } _ entryFresh rfl
      refine simulates.succeed body (by simp) ran simulates.threshold ?_ ?_
      · refine total.trans ?_
        have debit : (debitEntry id attempt.thresholdSats).deltaSats = -(thresholdSats : Int) :=
          congrArg Neg.neg isThreshold
        rw [debit, ← balance]
        simp only
        rw [Int.natCast_sub due, simulates.threshold]
        omega
      · exact rows.resolve (rows_applied _ _) (fun _ selects => selects) fun _ => rfl
  · have absent : db.feedAttempts.rows.find? (isAttempt id expected.row) = none := by
      refine List.find?_eq_none.mpr fun row member selected => isActive ?_
      exact rows.row_iff.mp ⟨row, member, selected⟩
    have body : (call.stored thresholdSats).body now db =
        .error (.attemptNotIn id expected.row.asStr) := by
      rw [isStored, transact_error, resolveAsFed, absent]
      rfl
    rcases FeedRuntime.requireAttempt_refuses isActive with ⟨error, refused, isOther⟩
    have ran : call.ran runtime = .error error := by
      rw [isRan, refused]
      rfl
    exact simulates.fail body ran isOther

/-- Both machines move an attempt in the expected state, and neither does otherwise. -/
theorem Simulates.updates {id : Uuid} {expected : ActiveStatus} {update : AttemptUpdate}
    {moved : Option ActiveAttempt} (simulates : Simulates thresholdSats db runtime)
    (selected : ∀ row, update.selected row = isAttempt id expected.row row)
    (succeeds : (updateAttempts update db).2 = 1 → ∃ after,
      (call.stored thresholdSats).body now db = .ok (.done, after) ∧
        after.ledgerEntries = db.ledgerEntries ∧
        after.feedAttempts = (updateAttempts update db).1.feedAttempts)
    (fails : (updateAttempts update db).2 = 0 → ∃ error,
      (call.stored thresholdSats).body now db = .error error)
    (isRan : call.ran runtime = do
      runtime.requireAttempt id expected
      return { runtime with activeAttempt := moved })
    (moves : ∀ after, after.feedAttempts.rows = db.feedAttempts.rows.map update.apply →
      ActiveRow thresholdSats db (some ⟨id, expected⟩) → ActiveRow thresholdSats after moved) :
    Steps thresholdSats db runtime call now := by
  have rows := simulates.active
  by_cases isActive : runtime.activeAttempt = some ⟨id, expected⟩
  · rw [isActive] at rows
    rcases succeeds (affected_eq_one selected (rows.row_iff.mpr rfl)) with
      ⟨after, body, entries, attempts⟩
    have ran : call.ran runtime = .ok { runtime with activeAttempt := moved } := by
      rw [isRan]
      exact bind_eq_ok.mpr ⟨(), FeedRuntime.requireAttempt_of isActive, rfl⟩
    refine simulates.succeed body (by simp) ran simulates.threshold ?_ ?_
    · rw [creditTotal, entries]
      exact (feedCredit_total simulates.credit).symm
    · refine moves after ?_ rows
      rw [attempts]
      exact rows_applied update db.feedAttempts
  · rcases fails (affected_eq_zero rows selected isActive) with ⟨error, body⟩
    rcases FeedRuntime.requireAttempt_refuses isActive with ⟨failure, refused, isOther⟩
    have ran : call.ran runtime = .error failure := by
      rw [isRan, refused]
      rfl
    exact simulates.fail body ran isOther

theorem Simulates.marksUnknown {id : Uuid} {error : String}
    (simulates : Simulates thresholdSats db runtime) :
    Steps thresholdSats db runtime (.markFeedUnknown id error) now := by
  refine @Simulates.updates _ _ _ _ _ _ id .intentCommitted
    (AttemptUpdate.unconfirmed id (truncateError error)) (some ⟨id, .unknown⟩) simulates
    (fun _ => rfl) ?_ ?_ rfl ?_
  · intro one
    refine ⟨(appendEventInTransaction "processing_error"
      [("feed_attempt_id", .string id.toText), ("message", .string unconfirmedMessage)]
      (updateAttempts (.unconfirmed id (truncateError error)) db).1).1, ?_, rfl, rfl⟩
    simp only [FeedCall.stored, LedgerCall.body, transact_eq_ok]
    exact ⟨(), bind_eq_ok.mpr ⟨.unit, ensure_of one, rfl⟩, trivial⟩
  · intro zero
    have refused : markFeedUnknown id error db =
        .error (.attemptNotIn id "intent_committed") := by
      rw [markFeedUnknown, ensure, if_neg (by rw [zero]; decide)]
      rfl
    refine ⟨.attemptNotIn id "intent_committed", ?_⟩
    simp only [FeedCall.stored, LedgerCall.body, transact_error]
    exact refused
  · exact fun after applied rows => rows.move applied (fun _ selects => selects) fun _ => rfl

theorem Simulates.notFed {id : Uuid} (simulates : Simulates thresholdSats db runtime) :
    Steps thresholdSats db runtime (.reconcileUnknownAsNotFed id) now := by
  refine @Simulates.updates _ _ _ _ _ _ id .unknown (AttemptUpdate.notFed id now) none simulates
    (fun _ => rfl) ?_ ?_ rfl ?_
  · intro one
    have read : feedCreditInTransaction (updateAttempts (.notFed id now) db).1 =
        .ok runtime.ledger.creditSats := simulates.credit
    refine ⟨(appendEventInTransaction "feed_reconciled_not_fed"
      [("feed_attempt_id", .string id.toText),
        ("feed_credit_sats", .number runtime.ledger.creditSats)]
      (updateAttempts (.notFed id now) db).1).1, ?_, rfl, rfl⟩
    simp only [FeedCall.stored, LedgerCall.body, transact_eq_ok]
    exact ⟨(), bind_eq_ok.mpr ⟨.unit, ensure_of one, bind_eq_ok.mpr ⟨_, read, rfl⟩⟩, trivial⟩
  · intro zero
    have refused : reconcileUnknownAsNotFed id now db =
        .error (.attemptNotIn id "unknown") := by
      rw [reconcileUnknownAsNotFed, ensure, if_neg (by rw [zero]; decide)]
      rfl
    refine ⟨.attemptNotIn id "unknown", ?_⟩
    simp only [FeedCall.stored, LedgerCall.body, transact_error]
    exact refused
  · exact fun after applied rows => rows.resolve applied (fun _ selects => selects) fun _ => rfl

/-- Every call that comes with what it needs agrees and keeps the simulation. -/
theorem Simulates.steps (simulates : Simulates thresholdSats db runtime)
    (bounded : thresholdSats ≤ maxAccountingUnits) (ready : call.Ready now db) :
    Steps thresholdSats db runtime call now := by
  cases call with
  | credit payment => exact simulates.credits ready
  | beginNextFeed drawn => exact simulates.begins bounded ready
  | confirmFeed id => exact simulates.feeds rfl rfl
  | markFeedUnknown id error => exact simulates.marksUnknown
  | reconcileUnknownAsFed id => exact simulates.feeds rfl rfl
  | reconcileUnknownAsNotFed id => exact simulates.notFed

end Step

/-! ## Frames -/

structure AttemptsFrame (drawn : Uuid) (before after : Db) : Prop where
  cooldown : after.feederCooldown = before.feederCooldown
  ids : ∀ attempt ∈ after.feedAttempts.rows,
    attempt.id = drawn ∨ ∃ old ∈ before.feedAttempts.rows, old.id = attempt.id

theorem AttemptsFrame.refl (drawn : Uuid) (db : Db) : AttemptsFrame drawn db db :=
  ⟨rfl, fun attempt member => .inr ⟨attempt, member, rfl⟩⟩

theorem AttemptsFrame.trans {drawn : Uuid} {first second third : Db}
    (left : AttemptsFrame drawn first second) (right : AttemptsFrame drawn second third) :
    AttemptsFrame drawn first third where
  cooldown := right.cooldown.trans left.cooldown
  ids attempt member := by
    rcases right.ids attempt member with isDrawn | ⟨old, oldMember, same⟩
    · exact .inl isDrawn
    · rw [← same]
      exact left.ids old oldMember

section Frames

variable [SerdeJson] {thresholdSats : Nat} {id drawn : Uuid} {now : Int} {before after : Db}
  {result : Except LedgerError LedgerResponse}

theorem begin_frame
    (step : LedgerStep before ⟨.beginFeedAttempt thresholdSats drawn, now, result⟩ after) :
    AttemptsFrame drawn before after := by
  rcases ledgerStep_cases step with ⟨_, _, rfl⟩ | ⟨_, _, ran⟩
  · exact .refl _ _
  · simp only [LedgerCall.body, transact_eq_ok] at ran
    rcases ran with ⟨_, began, _⟩
    rcases beginFeedAttempt_cases began with ⟨_, rfl⟩ | ⟨_, begins⟩
    · exact .refl _ _
    · cases begins with
      | intro _ _ _ _ _ _ fresh =>
        refine ⟨rfl, fun attempt member => ?_⟩
        rcases (Table.mem_rows_insert fresh).mp member with old | rfl
        · exact .inr ⟨attempt, old, rfl⟩
        · exact .inl rfl

theorem confirm_frame
    (step : LedgerStep before ⟨.confirmFeedAttempt id, now, result⟩ after) :
    AttemptsFrame drawn before after := by
  rcases ledgerStep_cases step with ⟨_, _, rfl⟩ | ⟨_, _, ran⟩
  · exact .refl _ _
  · simp only [LedgerCall.body, transact_eq_ok] at ran
    rcases ran with ⟨_, resolved, _⟩
    cases resolveAsFed_cases resolved with
    | intro unresolved =>
      refine ⟨rfl, fun attempt member => .inr ?_⟩
      rw [rows_applied] at member
      rcases List.mem_map.mp member with ⟨old, oldMember, rfl⟩
      exact ⟨old, oldMember, (AttemptUpdate.apply_id _ old).symm⟩

theorem begin_response {response : LedgerResponse}
    (began : (execute (.beginFeedAttempt thresholdSats drawn) now before).1 = .ok response) :
    response = .attempt none ∨ response = .attempt (some drawn) := by
  unfold execute at began
  split at began
  · rename_i answer committed succeeded
    cases began
    simp only [LedgerCall.body, transact_eq_ok] at succeeded
    rcases succeeded with ⟨id, ran, rfl⟩
    rcases beginFeedAttempt_cases ran with ⟨rfl, _⟩ | ⟨rfl, _⟩
    · exact .inl rfl
    · exact .inr rfl
  · cases began

end Frames

/-! ## Runs -/

section Runs

variable [SerdeJson] {thresholdSats : Nat} {db : Db} {runtime : FeedRuntime}

theorem Simulates.lockstep (bounded : thresholdSats ≤ maxAccountingUnits) :
    ∀ {calls : List (FeedCall × Int)} {db : Db} {runtime : FeedRuntime},
      Simulates thresholdSats db runtime → AllReady thresholdSats calls db →
        Lockstep thresholdSats calls db runtime := by
  intro calls
  induction calls with
  | nil => exact fun simulates _ => simulates.shows
  | cons head rest induction =>
      intro db runtime simulates ready
      rcases simulates.steps bounded ready.1 with ⟨agrees, next⟩
      exact ⟨simulates.shows, agrees, induction next ready.2⟩

theorem Simulates.initial {labels : List LedgerLabel} {ledger : FeedLedger}
    (reached : LedgerRun Db.fresh labels db) (idle : findUnresolved db = none)
    (read : feedCreditSats db = .ok ledger.creditSats) :
    Simulates ledger.thresholdSats db (.new ledger) where
  books := Books.of_run reached
  tables := (CreditSound.of_run reached).tables
  threshold := rfl
  credit := read
  active := fun _ member => findUnresolved_eq_none idle member

/-! ## Draining -/

/-- Feed while a feed is due, with the identifiers that are drawn, and count the feeds. -/
def drainFeeds (thresholdSats : Nat) (now : Int) : List Uuid → Db → Nat × Db
  | [], db => (0, db)
  | drawn :: rest, db =>
      match execute (.beginFeedAttempt thresholdSats drawn) now db with
      | (.ok (.attempt (some id)), begun) =>
          let confirmed := execute (.confirmFeedAttempt id) now begun
          if confirmed.1.isOk then
            let drained := drainFeeds thresholdSats now rest confirmed.2
            (drained.1 + 1, drained.2)
          else (0, confirmed.2)
      | (_, unchanged) => (0, unchanged)

theorem Simulates.drains (bounded : thresholdSats ≤ maxAccountingUnits) {now : Int}
    (draws : List Uuid) (simulates : Simulates thresholdSats db runtime)
    (idle : runtime.activeAttempt = none) (cooled : db.feederCooldown ≤ now)
    (distinct : draws.Nodup)
    (unused : ∀ drawn ∈ draws, ∀ attempt ∈ db.feedAttempts.rows, attempt.id ≠ drawn) :
    (drainFeeds thresholdSats now draws db).1 = (runtime.drain draws).1 ∧
      Simulates thresholdSats (drainFeeds thresholdSats now draws db).2
        (runtime.drain draws).2 := by
  induction draws generalizing db runtime with
  | nil => exact ⟨rfl, simulates⟩
  | cons drawn rest induction =>
      rcases List.nodup_cons.mp distinct with ⟨notInRest, restDistinct⟩
      have steps := @Simulates.steps _ _ _ _ (.beginNextFeed drawn) now simulates bounded
        ⟨unused drawn List.mem_cons_self, cooled⟩
      rcases steps with ⟨agrees, begun⟩
      have beginning : LedgerStep db ⟨.beginFeedAttempt thresholdSats drawn, now,
          (execute (.beginFeedAttempt thresholdSats drawn) now db).1⟩
          (execute (.beginFeedAttempt thresholdSats drawn) now db).2 := rfl
      have responses := @begin_response _ thresholdSats drawn now db
      have ran := FeedRuntime.beginNextFeed_idle drawn idle
      simp only [FeedCall.stored, FeedCall.ran, FeedCall.next] at agrees begun
      unfold drainFeeds FeedRuntime.drain
      rw [ran] at agrees begun ⊢
      generalize execute (.beginFeedAttempt thresholdSats drawn) now db = outcome at *
      rcases outcome with ⟨result, after⟩
      by_cases short : runtime.ledger.creditSats < runtime.ledger.thresholdSats
      · rw [if_pos short] at agrees begun ⊢
        have isIdle : result = .ok (.attempt none) := by
          cases result with
          | error error =>
              rcases agrees with ⟨failure, isFailure, isOther⟩
              cases isFailure
              exact absurd rfl isOther
          | ok response =>
              rcases responses rfl with rfl | rfl
              · rfl
              · rcases agrees with ⟨moved, impossible⟩
                cases impossible
        subst isIdle
        exact ⟨rfl, begun⟩
      · rw [if_neg short] at agrees begun ⊢
        have isBegun : result = .ok (.attempt (some drawn)) := by
          cases result with
          | error error =>
              rcases agrees with ⟨failure, impossible, _⟩
              cases impossible
          | ok response =>
              rcases responses rfl with rfl | rfl
              · cases agrees
              · rfl
        subst isBegun
        have covered := Nat.le_of_not_lt short
        have confirmedSteps := @Simulates.steps _ _ _ _ (.confirmFeed drawn) now begun bounded
          trivial
        rcases confirmedSteps with ⟨confirms, confirmed⟩
        have confirming : LedgerStep after ⟨.confirmFeedAttempt drawn, now,
            (execute (.confirmFeedAttempt drawn) now after).1⟩
            (execute (.confirmFeedAttempt drawn) now after).2 := rfl
        have ranConfirm := FeedRuntime.confirmFeed_begun drawn covered
        simp only [FeedCall.stored, FeedCall.ran, FeedCall.next] at confirms confirmed
        rw [ranConfirm] at confirms confirmed
        simp only [ranConfirm]
        generalize execute (.confirmFeedAttempt drawn) now after = confirmation at *
        rcases confirmation with ⟨confirmResult, final⟩
        have isOk : confirmResult.isOk = true := by
          cases confirmResult with
          | error error =>
              rcases confirms with ⟨failure, impossible, _⟩
              cases impossible
          | ok response => rfl
        have frame := (begin_frame beginning).trans (confirm_frame confirming)
        rw [isOk, if_pos rfl]
        have drained := induction confirmed rfl (by rw [frame.cooldown]; exact cooled)
          restDistinct fun other isOther attempt member same => by
            rcases frame.ids attempt member with isDrawn | ⟨old, oldMember, oldSame⟩
            · exact notInRest (isDrawn ▸ same ▸ isOther)
            · exact unused other (List.mem_cons_of_mem _ isOther) old oldMember
                (oldSame.trans same)
        exact ⟨congrArg (· + 1) drained.1, drained.2⟩

end Runs

/-- From any ledger without an unresolved attempt, every sequence of calls agrees with the
runtime and shows it after each call. Draining performs as many feeds as the credit
covers and leaves the remainder. -/
theorem feed_ledger_refines_runtime [SerdeJson] {labels : List LedgerLabel} {db : Db}
    {ledger : FeedLedger} (reached : LedgerRun Db.fresh labels db)
    (idle : findUnresolved db = none) (bounded : ledger.thresholdSats ≤ maxAccountingUnits)
    (read : feedCreditSats db = .ok ledger.creditSats) :
    (∀ calls, AllReady ledger.thresholdSats calls db →
      Lockstep ledger.thresholdSats calls db (.new ledger)) ∧
    ∀ draws now, db.feederCooldown ≤ now → draws.Nodup →
      (∀ drawn ∈ draws, ∀ attempt ∈ db.feedAttempts.rows, attempt.id ≠ drawn) →
      ledger.creditSats / ledger.thresholdSats ≤ draws.length →
        let drained : FeedRuntime :=
          ⟨{ ledger with creditSats := ledger.creditSats % ledger.thresholdSats }, none⟩
        (FeedRuntime.new ledger).drain draws =
            (ledger.creditSats / ledger.thresholdSats, drained) ∧
          (drainFeeds ledger.thresholdSats now draws db).1 =
            ledger.creditSats / ledger.thresholdSats ∧
          Shows ledger.thresholdSats (drainFeeds ledger.thresholdSats now draws db).2 drained := by
  have simulates := Simulates.initial reached idle read
  refine ⟨fun calls ready => simulates.lockstep bounded ready, ?_⟩
  intro draws now cooled distinct unused enough
  have isDrained := FeedRuntime.drain_eq draws (.new ledger) rfl enough
  rcases simulates.drains bounded draws rfl cooled distinct unused with ⟨feeds, drained⟩
  rw [isDrained] at feeds drained
  exact ⟨isDrained, feeds, drained.shows⟩

/-- The calls of the example on a threshold of 3 sats, from an empty ledger. -/
def exampleFeedCalls : List (FeedCall × Int) :=
  [(.credit examplePayment, 11), (.beginNextFeed ⟨7⟩, 12), (.confirmFeed ⟨7⟩, 13),
    (.beginNextFeed ⟨8⟩, 14)]

theorem feed_ledger_refines_runtime_example :
    letI := exampleJson
    Lockstep 3 exampleFeedCalls Db.fresh (.new ⟨3, 0, by decide⟩) := by
  let := exampleJson
  refine (feed_ledger_refines_runtime (.nil Db.fresh) rfl (by decide) rfl).1 exampleFeedCalls
    ⟨⟨⟨rfl, by decide⟩, ⟨by simp [Db.fresh], by simp [Db.fresh]⟩, by decide⟩, ?_⟩
  exact ⟨⟨by decide +kernel, by decide +kernel⟩, trivial,
    ⟨by decide +kernel, by decide +kernel⟩, trivial⟩

end LightningGoats
