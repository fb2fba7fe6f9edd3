import LightningGoats.Ledger.Requests

/-! # Admission of invoices

Every instance that shares the database reserves a lease before it asks the
provider for an invoice. A lease that nobody finishes expires.
-/

namespace LightningGoats

open Outcome Relational

structure InvoiceAdmission where
  id : Uuid
  createdAt : Int
  expiresAt : Int
  finished : Bool
  deriving DecidableEq, Repr

abbrev InvoiceAdmission.Clash : InvoiceAdmission → InvoiceAdmission → Prop :=
  SameKey fun row => some row.id

structure IssuanceDb where
  ledger : Db
  invoiceAdmissions : Table InvoiceAdmission.Clash

def IssuanceDb.fresh : IssuanceDb where
  ledger := .fresh
  invoiceAdmissions := .empty

structure ReservationClock where
  purge : Int
  recent : Int
  active : Int
  issued : Int
  insert : Int
  deriving DecidableEq, Repr

def ReservationClock.readings (clock : ReservationClock) : List Int :=
  [clock.purge, clock.recent, clock.active, clock.issued, clock.insert]

def InvoiceAdmission.isActive (now : Int) (row : InvoiceAdmission) : Bool :=
  row.finished = false && now < row.expiresAt

def InvoiceAdmission.isPurged (now : Int) (row : InvoiceAdmission) : Bool :=
  row.createdAt ≤ now - 60 && (row.finished = true || row.expiresAt ≤ now)

def purgeInvoiceAdmissions (now : Int) (db : IssuanceDb) : IssuanceDb :=
  { db with invoiceAdmissions := db.invoiceAdmissions.delete (InvoiceAdmission.isPurged now) }

def recentAdmissions (now : Int) (db : IssuanceDb) : Nat :=
  db.invoiceAdmissions.rows.countP fun row => now - 60 < row.createdAt

def activeAdmissions (now : Int) (db : IssuanceDb) : Nat :=
  db.invoiceAdmissions.rows.countP (InvoiceAdmission.isActive now)

def recentlyIssued (now : Int) (db : IssuanceDb) : Nat :=
  db.ledger.strikeReceiveRequests.rows.countP fun row => now - 86400 < row.createdAt

/-- Take a lease under the identifier `drawn`, if there is capacity. -/
def reserveInvoice (clock : ReservationClock) (drawn : Uuid) (before : IssuanceDb) :
    Except LedgerError (Option Uuid × IssuanceDb) :=
  let db := purgeInvoiceAdmissions clock.purge before
  let recent := recentAdmissions clock.recent db
  let active := activeAdmissions clock.active db
  let issued := recentlyIssued clock.issued db
  if 30 ≤ recent ∨ 4 ≤ active ∨ 10000 ≤ issued + active then return (none, db)
  else do
    let inserted ← insertRow "invoice_admissions" (fun _ => True) db.invoiceAdmissions
      ⟨drawn, clock.insert, clock.insert + 30, false⟩
    return (some drawn, { db with invoiceAdmissions := inserted.1 })

def InvoiceAdmission.finish (id : Uuid) (row : InvoiceAdmission) : InvoiceAdmission :=
  if row.id = id then { row with finished := true } else row

@[simp] theorem InvoiceAdmission.finish_id (id : Uuid) (row : InvoiceAdmission) :
    (row.finish id).id = row.id := by
  unfold InvoiceAdmission.finish
  split <;> rfl

@[simp] theorem InvoiceAdmission.finish_createdAt (id : Uuid) (row : InvoiceAdmission) :
    (row.finish id).createdAt = row.createdAt := by
  unfold InvoiceAdmission.finish
  split <;> rfl

def finishInvoiceAdmission (id : Uuid) (db : IssuanceDb) : IssuanceDb :=
  { db with
    invoiceAdmissions := db.invoiceAdmissions.update (InvoiceAdmission.finish id)
      fun left right => SameKey.of_preserved (by simp) (by simp) }

theorem InvoiceAdmission.isActive_of_finish {id : Uuid} {now : Int} {row : InvoiceAdmission}
    (active : (row.finish id).isActive now = true) : row.isActive now = true := by
  unfold InvoiceAdmission.finish at active
  split at active
  · cases active
  · exact active

theorem InvoiceAdmission.isActive_of_later {earlier later : Int} {row : InvoiceAdmission}
    (notBefore : earlier ≤ later) (active : row.isActive later = true) :
    row.isActive earlier = true := by
  simp only [isActive, Bool.and_eq_true, decide_eq_true_eq] at active ⊢
  exact ⟨active.1, Int.lt_of_le_of_lt notBefore active.2⟩

theorem reserveInvoice_cases {clock : ReservationClock} {drawn : Uuid} {before after : IssuanceDb}
    {id : Option Uuid} (ran : reserveInvoice clock drawn before = .ok (id, after)) :
    (id = none ∧ after = purgeInvoiceAdmissions clock.purge before) ∨
      (id = some drawn ∧
        recentAdmissions clock.recent (purgeInvoiceAdmissions clock.purge before) < 30 ∧
        activeAdmissions clock.active (purgeInvoiceAdmissions clock.purge before) < 4 ∧
        recentlyIssued clock.issued (purgeInvoiceAdmissions clock.purge before) +
          activeAdmissions clock.active (purgeInvoiceAdmissions clock.purge before) < 10000 ∧
        ∃ fresh : (purgeInvoiceAdmissions clock.purge before).invoiceAdmissions.Fresh
            ⟨drawn, clock.insert, clock.insert + 30, false⟩,
          after = { purgeInvoiceAdmissions clock.purge before with
            invoiceAdmissions :=
              (purgeInvoiceAdmissions clock.purge before).invoiceAdmissions.insert _ fresh }) := by
  simp only [reserveInvoice] at ran
  split at ran
  · cases ran
    exact .inl ⟨rfl, rfl⟩
  · rename_i room
    simp only [not_or, Nat.not_le] at room
    simp only [bind_eq_ok, pure_eq_ok, Prod.mk.injEq] at ran
    rcases ran with ⟨⟨table, rowid⟩, inserted, rfl, rfl⟩
    rcases insertRow_eq_ok.mp inserted with ⟨_, _, fresh, rfl⟩
    exact .inr ⟨rfl, room.1, room.2.1, room.2.2, fresh, rfl⟩

end LightningGoats
