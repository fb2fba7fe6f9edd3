import Mathlib.Data.Finset.Dedup
import Mathlib.Data.Finset.Order
import Mathlib.Data.List.Perm.Subperm
import LightningGoats.Foundation.SlidingWindow
import LightningGoats.Ledger.Admission

/-! # Issuing invoices from many processes

A process that has reserved a lease records at most one request with it, while
the lease is unfinished and has not expired, and finishes it. It may stop at any
point. Every statement reads its own time.
-/

namespace LightningGoats

open Outcome Relational SlidingWindow

structure Lease where
  id : Uuid
  createdAt : Int
  deriving DecidableEq, Repr

def InvoiceAdmission.lease (row : InvoiceAdmission) : Lease :=
  ⟨row.id, row.createdAt⟩

def IssuanceDb.activeLeases (now : Int) (db : IssuanceDb) : List Lease :=
  (db.invoiceAdmissions.rows.filter (InvoiceAdmission.isActive now)).map InvoiceAdmission.lease

/-- The tables, and the leases that running processes have not used yet. -/
structure Issuance where
  db : IssuanceDb
  held : List Lease

def Issuance.fresh : Issuance :=
  ⟨.fresh, []⟩

/-- A process that fails or stops abandons its lease. -/
inductive IssuanceCall
  | reserve (clock : ReservationClock) (drawn : Uuid)
  | record (lease : Lease) (request : StoredStrikeReceiveRequest) (now : Int)
  | abandon (lease : Lease)
  | finish (id : Uuid)
  | ledger (call : LedgerCall) (now : Int)

inductive IssuanceResult
  | reserved (id : Option Uuid)
  | done
  | answered (response : LedgerResponse)
  | failed (error : LedgerError)
  deriving DecidableEq, Repr

/-- A request is recorded with a lease that the process holds and that is
active; no other call records one. -/
def IssuanceCall.Allowed (before : Issuance) : IssuanceCall → Prop
  | record lease _ now => lease ∈ before.held ∧ lease ∈ before.db.activeLeases now
  | ledger call _ => ∀ request, call ≠ .recordStrikeReceiveRequest request
  | _ => True

def IssuanceCall.execute [SerdeJson] (before : Issuance) :
    IssuanceCall → IssuanceResult × Issuance
  | reserve clock drawn =>
      match reserveInvoice clock drawn before.db with
      | .ok (id, db) =>
          (.reserved id, ⟨db, (id.map (⟨·, clock.insert⟩)).toList ++ before.held⟩)
      | .error error => (.failed error, before)
  | record lease request now =>
      match recordStrikeReceiveRequest request now before.db.ledger with
      | .ok (_, recorded) =>
          (.done, ⟨{ before.db with ledger := recorded }, before.held.erase lease⟩)
      | .error error => (.failed error, before)
  | abandon lease => (.done, { before with held := before.held.erase lease })
  | finish id => (.done, { before with db := finishInvoiceAdmission id before.db })
  | ledger call now =>
      match LightningGoats.execute call now before.db.ledger with
      | (.ok response, committed) =>
          (.answered response, { before with db := { before.db with ledger := committed } })
      | (.error error, committed) =>
          (.failed error, { before with db := { before.db with ledger := committed } })

structure IssuanceLabel where
  call : IssuanceCall
  result : IssuanceResult

namespace IssuanceLabel

def reservedAt : IssuanceLabel → Option Int
  | ⟨.reserve clock _, .reserved (some _)⟩ => some clock.insert
  | _ => none

def readings (label : IssuanceLabel) : List Int :=
  match label.call with
  | .reserve clock _ => clock.readings
  | .record _ _ now => [now]
  | .ledger _ now => [now]
  | _ => []

end IssuanceLabel

/-- Transactions are serialized, whichever process makes them. -/
def IssuanceStep [SerdeJson] (before : Issuance) (label : IssuanceLabel) (after : Issuance) :
    Prop :=
  label.call.Allowed before ∧ label.call.execute before = (label.result, after)

abbrev IssuanceRun [SerdeJson] : Issuance → List IssuanceLabel → Issuance → Prop :=
  Execution.Run IssuanceStep

def reservationTimes (labels : List IssuanceLabel) : List Int :=
  labels.filterMap IssuanceLabel.reservedAt

def IssuanceDb.requestTimes (db : IssuanceDb) : List Int :=
  db.ledger.strikeReceiveRequests.rows.map StrikeReceiveRequestRow.createdAt

/-! ## The bounds -/

def unusedLeases (now : Int) (state : Issuance) : Nat :=
  state.held.countP fun lease => lease ∈ state.db.activeLeases now

/-- What admission keeps true up to a time. A request that is recorded takes the
place of the lease it was recorded with. -/
structure IssuanceBounds (reserved : List Int) (now : Int) (state : Issuance) : Prop where
  recent : ∀ since, now - 60 ≤ since → (reserved.countP fun time => since < time) ≤
    state.db.invoiceAdmissions.rows.countP fun row => since < row.createdAt
  reservations : Capped 30 59 reserved
  active : (state.db.activeLeases now).length ≤ 4
  distinct : state.held.Nodup
  stored : ∀ lease ∈ state.held, now - 60 < lease.createdAt →
    ∃ row ∈ state.db.invoiceAdmissions.rows, row.lease = lease
  budget : recentlyIssued now state.db + unusedLeases now state ≤ 10000
  requests : Capped 10000 86399 state.db.requestTimes

theorem recentlyIssued_eq (now : Int) (db : IssuanceDb) :
    recentlyIssued now db = db.requestTimes.countP fun time => now - 86400 < time := by
  rw [recentlyIssued, IssuanceDb.requestTimes, List.countP_map]
  rfl

theorem recentlyIssued_le {earlier later : Int} (notBefore : earlier ≤ later) (db : IssuanceDb) :
    recentlyIssued later db ≤ recentlyIssued earlier db := by
  refine List.countP_mono_left fun row _ isRecent => ?_
  simp only [decide_eq_true_eq] at isRecent ⊢
  omega

theorem activeLeases_length (now : Int) (db : IssuanceDb) :
    (db.activeLeases now).length = activeAdmissions now db := by
  rw [IssuanceDb.activeLeases, List.length_map, activeAdmissions, List.countP_eq_length_filter]

theorem activeLeases_later {earlier later : Int} (notBefore : earlier ≤ later)
    (db : IssuanceDb) : (db.activeLeases later).Sublist (db.activeLeases earlier) :=
  (List.monotone_filter_right _ fun _ active =>
    InvoiceAdmission.isActive_of_later notBefore active).map _

theorem unusedLeases_le {earlier later : Int} {before after : Issuance}
    (held : after.held.Sublist before.held)
    (active : after.db.activeLeases later ⊆ before.db.activeLeases earlier) :
    unusedLeases later after ≤ unusedLeases earlier before := by
  refine Nat.le_trans (List.countP_mono_left fun lease _ isActive => ?_) held.countP_le
  simp only [decide_eq_true_eq] at isActive ⊢
  exact active isActive

theorem unusedLeases_le_active (now : Int) {state : Issuance} (distinct : state.held.Nodup) :
    unusedLeases now state ≤ (state.db.activeLeases now).length := by
  rw [unusedLeases, List.countP_eq_length_filter]
  refine ((distinct.filter _).subperm fun lease member => ?_).length_le
  simpa using (List.mem_filter.mp member).2

namespace IssuanceBounds

variable {reserved : List Int} {now next : Int} {before after : Issuance}

theorem ofFresh (now : Int) : IssuanceBounds [] now .fresh where
  recent := fun _ _ => Nat.zero_le _
  reservations := capped_nil
  active := Nat.zero_le _
  distinct := .nil
  stored := by simp [Issuance.fresh]
  budget := Nat.zero_le _
  requests := capped_nil

theorem later (bounds : IssuanceBounds reserved now before) (notBefore : now ≤ next) :
    IssuanceBounds reserved next before where
  recent := fun since inside => bounds.recent since (by omega)
  reservations := bounds.reservations
  active := Nat.le_trans (activeLeases_later notBefore before.db).length_le bounds.active
  distinct := bounds.distinct
  stored := fun lease member inside => bounds.stored lease member (by omega)
  budget := Nat.le_trans (Nat.add_le_add (recentlyIssued_le notBefore before.db)
    (unusedLeases_le (List.Sublist.refl _) (activeLeases_later notBefore before.db).subset))
    bounds.budget
  requests := bounds.requests

/-- A change that adds neither a lease nor a request, and keeps the recent rows. -/
theorem of_less (bounds : IssuanceBounds reserved now before)
    (held : after.held.Sublist before.held)
    (active : (after.db.activeLeases now).Sublist (before.db.activeLeases now))
    (requests : after.db.requestTimes = before.db.requestTimes)
    (recent : ∀ since, now - 60 ≤ since →
      (before.db.invoiceAdmissions.rows.countP fun row => since < row.createdAt) ≤
        after.db.invoiceAdmissions.rows.countP fun row => since < row.createdAt)
    (stored : ∀ row ∈ before.db.invoiceAdmissions.rows, now - 60 < row.createdAt →
      ∃ kept ∈ after.db.invoiceAdmissions.rows, kept.lease = row.lease) :
    IssuanceBounds reserved now after where
  recent := fun since inside => Nat.le_trans (bounds.recent since inside) (recent since inside)
  reservations := bounds.reservations
  active := Nat.le_trans active.length_le bounds.active
  distinct := bounds.distinct.sublist held
  stored := by
    intro lease member inside
    rcases bounds.stored lease (held.subset member) inside with ⟨row, isRow, rfl⟩
    exact stored row isRow inside
  budget := by
    have issued : recentlyIssued now after.db = recentlyIssued now before.db := by
      rw [recentlyIssued_eq, recentlyIssued_eq, requests]
    rw [issued]
    exact Nat.le_trans (Nat.add_le_add_left (unusedLeases_le held active.subset) _) bounds.budget
  requests := by
    rw [requests]
    exact bounds.requests

theorem purge (bounds : IssuanceBounds reserved now before) :
    IssuanceBounds reserved now
      { before with db := purgeInvoiceAdmissions now before.db } := by
  refine bounds.of_less (List.Sublist.refl _) ?_ rfl (fun since inside => ?_)
    fun row member inside => ⟨row, ?_, rfl⟩
  · simp only [IssuanceDb.activeLeases, purgeInvoiceAdmissions, Table.rows_delete]
    exact (List.filter_sublist.filter _).map _
  · simp only [purgeInvoiceAdmissions, Table.rows_delete, List.countP_filter]
    refine List.countP_mono_left fun row _ isRecent => ?_
    simp only [decide_eq_true_eq, InvoiceAdmission.isPurged, Bool.and_eq_true,
      Bool.not_eq_true', Bool.and_eq_false_iff, decide_eq_false_iff_not] at isRecent ⊢
    exact ⟨isRecent, .inl (by omega)⟩
  · simp only [purgeInvoiceAdmissions, Table.rows_delete, List.mem_filter, Bool.not_eq_true',
      InvoiceAdmission.isPurged, Bool.and_eq_false_iff, decide_eq_false_iff_not]
    exact ⟨member, .inl (by omega)⟩

theorem reserve (bounds : IssuanceBounds reserved now before) {id : Uuid}
    {recent active issued : Int} (recentBefore : recent ≤ now) (activeBefore : active ≤ now)
    (issuedBefore : issued ≤ now) (recentRoom : recentAdmissions recent before.db < 30)
    (activeRoom : activeAdmissions active before.db < 4)
    (issuedRoom : recentlyIssued issued before.db + activeAdmissions active before.db < 10000)
    (fresh : before.db.invoiceAdmissions.Fresh ⟨id, now, now + 30, false⟩) :
    IssuanceBounds (reserved ++ [now]) now
      ⟨{ before.db with invoiceAdmissions := before.db.invoiceAdmissions.insert _ fresh },
        ⟨id, now⟩ :: before.held⟩ := by
  have leases : ∀ time, ({ before.db with
      invoiceAdmissions := before.db.invoiceAdmissions.insert _ fresh } :
        IssuanceDb).activeLeases time = before.db.activeLeases time ++
          if time < now + 30 then [⟨id, now⟩] else [] := by
    intro time
    by_cases unexpired : time < now + 30
    all_goals
      simp [IssuanceDb.activeLeases, InvoiceAdmission.isActive, InvoiceAdmission.lease, unexpired]
  have activeNow : (before.db.activeLeases now).length ≤ activeAdmissions active before.db := by
    rw [activeLeases_length]
    exact List.countP_mono_left fun row _ isActive =>
      InvoiceAdmission.isActive_of_later activeBefore isActive
  have isNew : (⟨id, now⟩ : Lease) ∉ before.held := by
    intro member
    rcases bounds.stored ⟨id, now⟩ member (by simp) with ⟨row, isRow, same⟩
    exact fresh row isRow ⟨rfl, congrArg (fun lease => some lease.id) same⟩
  exact {
    recent := by
      intro since inside
      have counted := bounds.recent since inside
      simp only [List.countP_append, Table.rows_insert, List.countP_singleton]
      omega
    reservations := by
      refine bounds.reservations.concat ?_
      rw [← List.countP_eq_length_filter]
      calc reserved.countP (fun arrival => now - 59 ≤ arrival)
          _ ≤ reserved.countP (fun time => now - 60 < time) :=
            List.countP_mono_left fun time _ inside => by
              simp only [decide_eq_true_eq] at inside ⊢
              omega
          _ ≤ before.db.invoiceAdmissions.rows.countP (fun row => now - 60 < row.createdAt) :=
            bounds.recent (now - 60) (Int.le_refl _)
          _ ≤ recentAdmissions recent before.db := List.countP_mono_left fun row _ inside => by
              simp only [decide_eq_true_eq] at inside ⊢
              omega
          _ < 30 := recentRoom
    active := by
      rw [leases, List.length_append]
      split
      · exact Nat.lt_of_le_of_lt activeNow activeRoom
      · exact Nat.le_of_lt (Nat.lt_of_le_of_lt activeNow activeRoom)
    distinct := List.nodup_cons.mpr ⟨isNew, bounds.distinct⟩
    stored := by
      intro lease member inside
      rcases List.mem_cons.mp member with rfl | old
      · exact ⟨_, Table.mem_rows_insert_new fresh, rfl⟩
      · rcases bounds.stored lease old inside with ⟨row, isRow, same⟩
        exact ⟨row, Table.mem_rows_insert_old fresh isRow, same⟩
    budget := by
      have others : (before.held.countP fun lease =>
          lease ∈ before.db.activeLeases now ++ [⟨id, now⟩]) ≤ unusedLeases now before := by
        refine List.countP_mono_left fun lease member isActive => ?_
        simp only [List.mem_append, List.mem_singleton, decide_eq_true_eq] at isActive ⊢
        rcases isActive with old | rfl
        · exact old
        · exact absurd member isNew
      have unused := unusedLeases_le_active now bounds.distinct
      have counted := recentlyIssued_le issuedBefore before.db
      rw [unusedLeases, leases, if_pos (by omega), List.countP_cons, if_pos (by simp)]
      change recentlyIssued now before.db + _ ≤ 10000
      omega
    requests := bounds.requests }

theorem record (bounds : IssuanceBounds reserved now before) {lease : Lease}
    {row : StrikeReceiveRequestRow} (isHeld : lease ∈ before.held)
    (isActive : lease ∈ before.db.activeLeases now) (createdAt : row.createdAt = now)
    (fresh : before.db.ledger.strikeReceiveRequests.Fresh row) :
    IssuanceBounds reserved now
      ⟨{ before.db with ledger := { before.db.ledger with
          strikeReceiveRequests := before.db.ledger.strikeReceiveRequests.insert row fresh } },
        before.held.erase lease⟩ := by
  have used : unusedLeases now before =
      ((before.held.erase lease).countP fun other => other ∈ before.db.activeLeases now) + 1 := by
    rw [unusedLeases, (List.perm_cons_erase isHeld).countP_eq, List.countP_cons,
      if_pos (by simpa using isActive)]
  exact {
    recent := bounds.recent
    reservations := bounds.reservations
    active := bounds.active
    distinct := bounds.distinct.erase lease
    stored := fun other member => bounds.stored other (List.mem_of_mem_erase member)
    budget := by
      have within := bounds.budget
      rw [used] at within
      rw [recentlyIssued, Table.rows_insert, List.countP_append, List.countP_singleton]
      change recentlyIssued now before.db + _ +
        (before.held.erase lease).countP (fun other => other ∈ before.db.activeLeases now) ≤ 10000
      split <;> omega
    requests := by
      rw [IssuanceDb.requestTimes, Table.rows_insert, List.map_append, List.map_singleton,
        createdAt]
      refine bounds.requests.concat ?_
      have within := bounds.budget
      have counted : (before.db.requestTimes.countP fun arrival => now - 86399 ≤ arrival) ≤
          recentlyIssued now before.db := by
        rw [recentlyIssued_eq]
        refine List.countP_mono_left fun time _ inside => ?_
        simp only [decide_eq_true_eq] at inside ⊢
        omega
      rw [← List.countP_eq_length_filter]
      omega }

theorem finish (bounds : IssuanceBounds reserved now before) (id : Uuid) :
    IssuanceBounds reserved now { before with db := finishInvoiceAdmission id before.db } := by
  refine bounds.of_less (List.Sublist.refl _) ?_ rfl (fun since _ => ?_)
    fun row member _ => ⟨row.finish id, ?_, ?_⟩
  · simp only [IssuanceDb.activeLeases, finishInvoiceAdmission, Table.rows_update,
      List.filter_map, List.map_map]
    have sameLease : InvoiceAdmission.lease ∘ InvoiceAdmission.finish id =
        InvoiceAdmission.lease := by
      funext row
      simp [InvoiceAdmission.lease]
    rw [sameLease]
    exact (List.monotone_filter_right _ fun _ active =>
      InvoiceAdmission.isActive_of_finish active).map _
  · simp [finishInvoiceAdmission, List.countP_map, Function.comp_def]
  · simp only [finishInvoiceAdmission, Table.rows_update]
    exact List.mem_map_of_mem member
  · simp [InvoiceAdmission.lease]

end IssuanceBounds

/-! ## Runs -/

theorem recordStrikeReceiveRequest_inserts {request : StoredStrikeReceiveRequest} {now : Int}
    {before after : Db} (ran : recordStrikeReceiveRequest request now before = .ok ((), after)) :
    after = before ∨
      ∃ fresh : before.strikeReceiveRequests.Fresh ⟨request.lowercased, now⟩,
        after = { before with
          strikeReceiveRequests := before.strikeReceiveRequests.insert _ fresh } := by
  simp only [recordStrikeReceiveRequest, bind_eq_ok] at ran
  rcases ran with ⟨_, _, _, _, _, _, _, _, _, _, _, _, _, _, ran⟩
  split at ran
  · simp only [bind_eq_ok, pure_eq_ok, Prod.mk.injEq, true_and] at ran
    rcases ran with ⟨_, _, rfl⟩
    exact .inl rfl
  · simp only [bind_eq_ok, pure_eq_ok, Prod.mk.injEq, true_and] at ran
    rcases ran with ⟨⟨table, rowid⟩, inserted, rfl⟩
    rcases insertRow_eq_ok.mp inserted with ⟨_, _, fresh, rfl⟩
    exact .inr ⟨fresh, rfl⟩

section Runs

variable [SerdeJson] {reserved : List Int} {now : Int} {before after : Issuance}
  {labels : List IssuanceLabel} {label : IssuanceLabel}

def Upcoming (labels : List IssuanceLabel) (now : Int) : Prop :=
  ∀ reading ∈ labels.flatMap IssuanceLabel.readings, reading ≤ now

omit [SerdeJson] in
theorem Upcoming.earlier (upcoming : Upcoming (labels ++ [label]) now) : Upcoming labels now :=
  fun reading member => upcoming reading (by
    rw [List.flatMap_append]
    exact List.mem_append_left _ member)

omit [SerdeJson] in
theorem Upcoming.reading (upcoming : Upcoming (labels ++ [label]) now) {reading : Int}
    (member : reading ∈ label.readings) : reading ≤ now :=
  upcoming reading (by
    rw [List.flatMap_append]
    exact List.mem_append_right _ (by simpa using member))

omit [SerdeJson] in
/-- With a nondecreasing clock the readings of a call are upcoming before it. -/
theorem upcoming_reading
    (clock : ((labels ++ [label]).flatMap IssuanceLabel.readings).Pairwise (· ≤ ·))
    {reading : Int} (member : reading ∈ label.readings) : Upcoming labels reading := by
  rw [List.flatMap_append] at clock
  exact fun earlier isEarlier => (List.pairwise_append.mp clock).2.2 earlier isEarlier reading
    (by simpa using member)

omit [SerdeJson] in
theorem readings_ordered
    (clock : ((labels ++ [label]).flatMap IssuanceLabel.readings).Pairwise (· ≤ ·)) :
    label.readings.Pairwise (· ≤ ·) := by
  rw [List.flatMap_append] at clock
  simpa using (List.pairwise_append.mp clock).2.1

omit [SerdeJson] in
theorem reservationTimes_concat (label : IssuanceLabel) : reservationTimes (labels ++ [label]) =
    reservationTimes labels ++ label.reservedAt.toList := by
  rw [reservationTimes, List.filterMap_append, reservationTimes]
  cases added : label.reservedAt <;> simp [added]

omit [SerdeJson] in
theorem reservationTimes_same (reservesNone : label.reservedAt = none) :
    reservationTimes (labels ++ [label]) = reservationTimes labels := by
  rw [reservationTimes_concat, reservesNone, Option.toList_none, List.append_nil]

omit [SerdeJson] in
theorem IssuanceBounds.reserves {clock : ReservationClock} {drawn : Uuid} {id : Option Uuid}
    {db : IssuanceDb} (bounds : IssuanceBounds reserved clock.purge before)
    (ordered : clock.readings.Pairwise (· ≤ ·))
    (ran : reserveInvoice clock drawn before.db = .ok (id, db)) :
    IssuanceBounds (reserved ++ (id.map fun _ => clock.insert).toList) clock.insert
      ⟨db, (id.map (⟨·, clock.insert⟩)).toList ++ before.held⟩ := by
  simp only [ReservationClock.readings, List.pairwise_cons, List.mem_cons, List.not_mem_nil,
    or_false, forall_eq_or_imp, forall_eq] at ordered
  rcases ordered with ⟨⟨_, _, _, fromPurge⟩, ⟨_, _, fromRecent⟩, ⟨_, fromActive⟩, fromIssued, _⟩
  have purged := bounds.purge.later fromPurge
  rcases reserveInvoice_cases ran with ⟨rfl, rfl⟩ |
    ⟨rfl, recentRoom, activeRoom, issuedRoom, fresh, rfl⟩
  · rw [Option.map_none, Option.toList_none, List.append_nil]
    exact purged
  · exact purged.reserve fromRecent fromActive fromIssued recentRoom activeRoom issuedRoom fresh

theorem IssuanceBounds.step
    (bounds : ∀ now, Upcoming labels now → IssuanceBounds (reservationTimes labels) now before)
    (clock : ((labels ++ [label]).flatMap IssuanceLabel.readings).Pairwise (· ≤ ·))
    (step : IssuanceStep before label after) (upcoming : Upcoming (labels ++ [label]) now) :
    IssuanceBounds (reservationTimes (labels ++ [label])) now after := by
  rcases step with ⟨allowed, ran⟩
  rcases label with ⟨call, result⟩
  have atNow := bounds now upcoming.earlier
  cases call with
  | reserve times drawn =>
      simp only [IssuanceCall.execute] at ran
      split at ran
      · rename_i id db reserves
        cases ran
        have atPurge := bounds times.purge (upcoming_reading clock (by
          simp [IssuanceLabel.readings, ReservationClock.readings]))
        have taken := (atPurge.reserves (readings_ordered clock) reserves).later
          (upcoming.reading (by simp [IssuanceLabel.readings, ReservationClock.readings]))
        rw [reservationTimes_concat]
        cases id with
        | none => exact taken
        | some id => exact taken
      · cases ran
        rw [reservationTimes_same rfl]
        exact atNow
  | record lease request time =>
      rw [reservationTimes_same rfl]
      have atTime := bounds time (upcoming_reading clock (by simp [IssuanceLabel.readings]))
      have notAfter : time ≤ now := upcoming.reading (by simp [IssuanceLabel.readings])
      simp only [IssuanceCall.execute] at ran
      split at ran
      · rename_i recorded
        cases ran
        rcases recordStrikeReceiveRequest_inserts recorded with rfl | ⟨fresh, rfl⟩
        · exact atNow.of_less List.erase_sublist (List.Sublist.refl _) rfl
            (fun _ _ => Nat.le_refl _) fun row member _ => ⟨row, member, rfl⟩
        · exact (atTime.record allowed.1 allowed.2 rfl fresh).later notAfter
      · cases ran
        exact atNow
  | abandon lease =>
      cases ran
      rw [reservationTimes_same rfl]
      exact atNow.of_less List.erase_sublist (List.Sublist.refl _) rfl
        (fun _ _ => Nat.le_refl _) fun row member _ => ⟨row, member, rfl⟩
  | finish id =>
      cases ran
      rw [reservationTimes_same rfl]
      exact atNow.finish id
  | ledger call time =>
      rw [reservationTimes_same rfl]
      have took : LedgerStep before.db.ledger ⟨call, time, (execute call time before.db.ledger).1⟩
          (execute call time before.db.ledger).2 := rfl
      have requests : (execute call time before.db.ledger).2.strikeReceiveRequests =
          before.db.ledger.strikeReceiveRequests := by
        rcases requests_of_step took with same | ⟨request, isRecord, _⟩
        · exact same
        · exact absurd isRecord (allowed request)
      have isAfter : after = { before with
          db := { before.db with ledger := (execute call time before.db.ledger).2 } } := by
        simp only [IssuanceCall.execute] at ran
        split at ran
        all_goals
          rename_i executed
          rw [executed]
          exact (congrArg Prod.snd ran).symm
      subst isAfter
      refine atNow.of_less (List.Sublist.refl _) (List.Sublist.refl _) ?_
        (fun _ _ => Nat.le_refl _) fun row member _ => ⟨row, member, rfl⟩
      exact congrArg (fun table => table.rows.map StrikeReceiveRequestRow.createdAt) requests

theorem IssuanceBounds.of_run (run : IssuanceRun .fresh labels after)
    (clock : (labels.flatMap IssuanceLabel.readings).Pairwise (· ≤ ·))
    (upcoming : Upcoming labels now) :
    IssuanceBounds (reservationTimes labels) now after := by
  induction labels using List.reverseRecOn generalizing after now with
  | nil =>
      have isFresh := Execution.Run.nil_iff.mp run
      subst isFresh
      exact .ofFresh now
  | append_singleton labels label induction =>
      rcases Execution.Run.at_split run with ⟨middle, target, first, taken, rest⟩
      have isEnd := Execution.Run.nil_iff.mp rest
      subst isEnd
      have earlier : (labels.flatMap IssuanceLabel.readings).Pairwise (· ≤ ·) := by
        rw [List.flatMap_append] at clock
        exact (List.pairwise_append.mp clock).1
      exact .step (fun now upcoming => induction first earlier upcoming) clock taken upcoming

omit [SerdeJson] in
theorem exists_upcoming (labels : List IssuanceLabel) : ∃ now, Upcoming labels now := by
  rcases (labels.flatMap IssuanceLabel.readings).toFinset.exists_le with ⟨now, bound⟩
  exact ⟨now, fun reading member => bound reading (List.mem_toFinset.mpr member)⟩

/-- No minute holds more than 30 reservations, no more than 4 leases are active
at one time, and no day holds more than 10000 recorded requests. -/
theorem invoice_admission_bounded (run : IssuanceRun .fresh labels after)
    (clock : (labels.flatMap IssuanceLabel.readings).Pairwise (· ≤ ·)) :
    (∀ time, ((reservationTimes labels).countP fun reservedAt =>
      time - 60 < reservedAt ∧ reservedAt ≤ time) ≤ 30) ∧
    (∀ now, Upcoming labels now → (after.db.activeLeases now).length ≤ 4) ∧
    ∀ time, (after.db.requestTimes.countP fun createdAt =>
      time - 86400 < createdAt ∧ createdAt ≤ time) ≤ 10000 := by
  rcases exists_upcoming labels with ⟨last, upcoming⟩
  have bounds := IssuanceBounds.of_run run clock upcoming
  refine ⟨fun time => ?_, fun now upcoming => (IssuanceBounds.of_run run clock upcoming).active,
    fun time => ?_⟩
  · have capped := bounds.reservations.within_le (time - 59)
    rw [within, ← List.countP_eq_length_filter] at capped
    refine Nat.le_trans (List.countP_mono_left fun reservedAt _ inside => ?_) capped
    simp only [decide_eq_true_eq] at inside ⊢
    omega
  · have capped := bounds.requests.within_le (time - 86399)
    rw [within, ← List.countP_eq_length_filter] at capped
    refine Nat.le_trans (List.countP_mono_left fun createdAt _ inside => ?_) capped
    simp only [decide_eq_true_eq] at inside ⊢
    omega

end Runs

theorem issuance_records [SerdeJson] {before : Issuance} {lease : Lease}
    {request : StoredStrikeReceiveRequest} {now : Int} {recorded : Db}
    (isHeld : lease ∈ before.held) (isActive : lease ∈ before.db.activeLeases now)
    (ran : recordStrikeReceiveRequest request now before.db.ledger = .ok ((), recorded)) :
    IssuanceStep before ⟨.record lease request now, .done⟩
      ⟨{ before.db with ledger := recorded }, before.held.erase lease⟩ :=
  ⟨⟨isHeld, isActive⟩, by rw [IssuanceCall.execute, ran]⟩

def exampleReservation (now : Int) (drawn : Uuid) : IssuanceCall :=
  .reserve ⟨now, now, now, now, now⟩ drawn

/-- Two processes have taken a lease each. -/
def exampleLeased : Issuance :=
  (@IssuanceCall.execute exampleJson
    (@IssuanceCall.execute exampleJson .fresh (exampleReservation 100 ⟨1⟩)).2
    (exampleReservation 101 ⟨2⟩)).2

theorem exampleLeased_fresh : exampleLeased.db.ledger.strikeReceiveRequests.Fresh
    ⟨(exampleReceiveRequest 'a').lowercased, 102⟩ := fun row member => by cases member

/-- The first process has recorded its request. -/
def exampleRecorded : Issuance :=
  ⟨{ exampleLeased.db with
      ledger := { exampleLeased.db.ledger with
        strikeReceiveRequests :=
          exampleLeased.db.ledger.strikeReceiveRequests.insert _ exampleLeased_fresh } },
    exampleLeased.held.erase ⟨⟨1⟩, 100⟩⟩

def exampleFinished : Issuance :=
  (@IssuanceCall.execute exampleJson exampleRecorded (.finish ⟨1⟩)).2

/-- Two processes take a lease, of which one is finished and the other expires. The next
reservation purges them both. -/
theorem invoice_admission_bounded_example :
    letI := exampleJson
    ∃ labels after, IssuanceRun .fresh labels after ∧ reservationTimes labels = [100, 101, 170] ∧
      after.db.requestTimes = [102] ∧ exampleFinished.db.activeLeases 102 = [⟨⟨2⟩, 101⟩] ∧
      exampleFinished.db.activeLeases 131 = [] ∧
      after.db.invoiceAdmissions.rows = [⟨⟨3⟩, 170, 200, false⟩] ∧
      (∀ time, ((reservationTimes labels).countP fun reservedAt =>
        time - 60 < reservedAt ∧ reservedAt ≤ time) ≤ 30) ∧
      ∀ now, Upcoming labels now → (after.db.activeLeases now).length ≤ 4 := by
  let := exampleJson
  let once : Issuance := (@IssuanceCall.execute exampleJson .fresh (exampleReservation 100 ⟨1⟩)).2
  let last : Issuance :=
    (@IssuanceCall.execute exampleJson exampleFinished (exampleReservation 170 ⟨3⟩)).2
  have reserves : IssuanceStep .fresh ⟨exampleReservation 100 ⟨1⟩, .reserved (some ⟨1⟩)⟩ once :=
    ⟨trivial, Prod.ext (by decide +kernel) rfl⟩
  have reservesOther : IssuanceStep once ⟨exampleReservation 101 ⟨2⟩, .reserved (some ⟨2⟩)⟩
      exampleLeased := ⟨trivial, Prod.ext (by decide +kernel) rfl⟩
  have ran := recordStrikeReceiveRequest_new (exampleReceiveRequest_accepted (by decide))
    (show '\x00' ∉ "lnbc2340n1test".toList by decide +kernel) rfl exampleLeased_fresh
  have isHeld : (⟨⟨1⟩, 100⟩ : Lease) ∈ exampleLeased.held := by decide +kernel
  have isActive : (⟨⟨1⟩, 100⟩ : Lease) ∈ exampleLeased.db.activeLeases 102 := by
    decide +kernel
  have finishes : IssuanceStep exampleRecorded ⟨.finish ⟨1⟩, .done⟩ exampleFinished := ⟨trivial, rfl⟩
  have reservesLast : IssuanceStep exampleFinished
      ⟨exampleReservation 170 ⟨3⟩, .reserved (some ⟨3⟩)⟩ last :=
    ⟨trivial, Prod.ext (by decide +kernel) rfl⟩
  have run : IssuanceRun _ _ _ := .cons reserves (.cons reservesOther
    (.cons (issuance_records isHeld isActive ran) (.cons finishes (.single reservesLast))))
  have bounded := invoice_admission_bounded run (by decide +kernel)
  exact ⟨_, _, run, rfl, rfl, by decide +kernel, by decide +kernel, by decide +kernel, bounded.1,
    bounded.2.1⟩

end LightningGoats
