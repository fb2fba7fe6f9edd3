import LightningGoats.Ledger.Validation

/-! # The Strike inbox

Issued receive requests, the durable work that notifications and scans leave
for the recovery worker, and the scan cursors.
-/

namespace LightningGoats

open Outcome Relational

/-! ## Issued receive requests -/

def validateHex32 (value field : String) : Except LedgerError Unit :=
  ensure (isHex32 value = true) (.notHex32 field)

def toAsciiLowercase (text : String) : String :=
  text.map Char.toLower

def StrikeReceiveRequestRow.Valid (row : StrikeReceiveRequestRow) : Prop :=
  FitsColumn 64 row.request.addressUser ∧ FitsColumn 64 row.request.creditPool ∧
    0 < row.request.amountMsat ∧ Text.sqlLength row.request.descriptionHash = 64 ∧
    Text.sqlLength row.request.paymentHash = 64 ∧ FitsColumn 8192 row.request.invoice

instance : DecidablePred StrikeReceiveRequestRow.Valid :=
  fun row => inferInstanceAs (Decidable (FitsColumn 64 row.request.addressUser ∧
    FitsColumn 64 row.request.creditPool ∧ 0 < row.request.amountMsat ∧
    Text.sqlLength row.request.descriptionHash = 64 ∧
    Text.sqlLength row.request.paymentHash = 64 ∧ FitsColumn 8192 row.request.invoice))

def findRequest (receiveRequestId : Uuid) (db : Db) : Option StoredStrikeReceiveRequest :=
  (db.strikeReceiveRequests.rows.find? fun row =>
    row.request.receiveRequestId = receiveRequestId).map StrikeReceiveRequestRow.request

def recordStrikeReceiveRequest (request : StoredStrikeReceiveRequest) (now : Int) (db : Db) :
    Except LedgerError (Unit × Db) := do
  validateHex32 request.descriptionHash "Strike description_hash"
  validateHex32 request.paymentHash "Strike payment_hash"
  validateUser request.addressUser "Strike address_user"
  validateUser request.creditPool "Strike credit_pool"
  ensure (request.amountMsat ≠ 0) .zeroReceiveAmount
  ensure (request.invoice ≠ "" ∧ request.invoice.utf8ByteSize ≤ 8192) .invoiceLength
  let _ ← toI64 request.amountMsat "Strike amount_msat"
  match findRequest request.receiveRequestId db with
  | some existing => do
      ensure (existing = request) (.conflictingRequest request.receiveRequestId)
      return ((), db)
  | none => do
      let inserted ← insertRow "strike_receive_requests" StrikeReceiveRequestRow.Valid
        db.strikeReceiveRequests {
          request := { request with
            descriptionHash := toAsciiLowercase request.descriptionHash
            paymentHash := toAsciiLowercase request.paymentHash }
          createdAt := now }
      return ((), { db with strikeReceiveRequests := inserted.1 })

def strikeReceiveRequest (receiveRequestId : Uuid) (db : Db) :
    Except LedgerError (Option StoredStrikeReceiveRequest) :=
  return findRequest receiveRequestId db

/-! ## Durable work -/

structure StrikeCompletedReceiveEvent where
  eventId : Uuid
  receiveRequestId : Uuid
  receiveId : Uuid
  deriving DecidableEq, Repr

structure StrikeInboxWork where
  key : String
  event : StrikeCompletedReceiveEvent
  attempts : Nat
  deriving DecidableEq, Repr

def inboxCapacity : Nat := 10000

def enqueueStrikeWork (key : String) (event : StrikeCompletedReceiveEvent) (now : Int)
    (db : Db) : Except LedgerError (Unit × Db) :=
  match db.strikeInbox.rows.find? fun row => row.workKey = key with
  | some row => do
      ensure (row.receiveRequestId = event.receiveRequestId ∧ row.receiveId = event.receiveId)
        .conflictingInbox
      return ((), db)
  | none => do
      let pending := db.strikeInbox.rows.countP fun row => row.status = .pending
      ensure (pending < inboxCapacity) .inboxCapacity
      let inserted ← insertRow "strike_inbox" (fun _ => True) db.strikeInbox {
        workKey := key
        eventId := event.eventId
        receiveRequestId := event.receiveRequestId
        receiveId := event.receiveId
        status := .pending
        attempts := 0
        nextAttempt := now
        createdAt := now }
      return ((), { db with strikeInbox := inserted.1 })

def webhookKey (eventId : Uuid) : String :=
  Text.joined ':' "webhook" eventId.toText

def recoveryKey (receiveId : Uuid) : String :=
  Text.joined ':' "recovery" receiveId.toText

def enqueueStrikeEvent (event : StrikeCompletedReceiveEvent) :
    Int → Db → Except LedgerError (Unit × Db) :=
  enqueueStrikeWork (webhookKey event.eventId) event

/-- The first row in an order, as `ORDER BY … LIMIT 1` selects it. -/
def earliest {Row : Type} (precedes : Row → Row → Bool) (rows : List Row) : Option Row :=
  rows.foldl (fun best row =>
    match best with
    | none => some row
    | some found => if precedes row found then some row else some found) none

theorem earliest_head {Row : Type} {precedes : Row → Row → Bool} {row : Row} {rest : List Row}
    (first : ∀ later ∈ rest, precedes later row = false) :
    earliest precedes (row :: rest) = some row := by
  rw [earliest, List.foldl_cons]
  induction rest with
  | nil => rfl
  | cons later rest induction =>
      rw [List.foldl_cons]
      simp only [first later List.mem_cons_self, Bool.false_eq_true, if_false]
      exact induction fun other member => first other (List.mem_cons_of_mem _ member)

def InboxRow.precedes (left right : InboxRow) : Bool :=
  left.nextAttempt < right.nextAttempt || left.nextAttempt = right.nextAttempt &&
    (left.createdAt < right.createdAt || left.createdAt = right.createdAt &&
      left.workKey < right.workKey)

def dueStrikeWork (now : Int) (db : Db) : Option StrikeInboxWork :=
  let due := db.strikeInbox.rows.filter fun row =>
    row.status ≠ .done && row.nextAttempt ≤ now
  (earliest InboxRow.precedes due).map fun row =>
    ⟨row.workKey, ⟨row.eventId, row.receiveRequestId, row.receiveId⟩, row.attempts⟩

def InboxRow.finish (key : String) (row : InboxRow) : InboxRow :=
  if row.workKey = key then { row with status := .done } else row

def retryDelay (attempts : Nat) : Int :=
  min (2 ^ min attempts 8) 300

def InboxRow.retry (key : String) (attempts : Nat) (now : Int) (row : InboxRow) : InboxRow :=
  if row.workKey = key ∧ row.status ≠ .done then
    { row with
      attempts := min (row.attempts + 1) 30
      status := if 7 ≤ attempts then .quarantined else .pending
      nextAttempt := now + if 7 ≤ attempts then 3600 else retryDelay attempts }
  else row

@[simp] theorem InboxRow.finish_workKey (key : String) (row : InboxRow) :
    (row.finish key).workKey = row.workKey := by
  unfold InboxRow.finish
  split <;> rfl

@[simp] theorem InboxRow.retry_workKey (key : String) (attempts : Nat) (now : Int)
    (row : InboxRow) : (row.retry key attempts now).workKey = row.workKey := by
  unfold InboxRow.retry
  split <;> rfl

def finishStrikeWork (key : String) (db : Db) : Except LedgerError (Unit × Db) :=
  return ((), { db with
    strikeInbox := db.strikeInbox.update (InboxRow.finish key)
      fun left right => SameKey.of_preserved (by simp) (by simp) })

def retryStrikeWork (key : String) (attempts : Nat) (now : Int) (db : Db) :
    Except LedgerError (Unit × Db) :=
  return ((), { db with
    strikeInbox := db.strikeInbox.update (InboxRow.retry key attempts now)
      fun left right => SameKey.of_preserved (by simp) (by simp) })

/-! ## Scans of issued requests -/

structure DueScan where
  request : StoredStrikeReceiveRequest
  pageOffset : Nat
  attempts : Nat
  deriving DecidableEq, Repr

def findScan (receiveRequestId : Uuid) (db : Db) : Option ScanRow :=
  db.strikeRecoveryScan.rows.find? fun row => row.receiveRequestId = receiveRequestId

def scanTime (row : StrikeReceiveRequestRow) (db : Db) : Int :=
  ((findScan row.request.receiveRequestId db).map ScanRow.nextAttempt).getD row.createdAt

def dueStrikeScan (now : Int) (db : Db) : Option DueScan :=
  let due := db.strikeReceiveRequests.rows.filter fun row => scanTime row db ≤ now
  let precedes := fun left right : StrikeReceiveRequestRow =>
    scanTime left db < scanTime right db || scanTime left db = scanTime right db &&
      (left.createdAt < right.createdAt || left.createdAt = right.createdAt &&
        left.request.receiveRequestId.toText < right.request.receiveRequestId.toText)
  (earliest precedes due).map fun row =>
    let scan := findScan row.request.receiveRequestId db
    ⟨row.request, (scan.map ScanRow.pageOffset).getD 0, (scan.map ScanRow.attempts).getD 0⟩

def ScanRow.overwriteBy (row next : ScanRow) : ScanRow :=
  if row.receiveRequestId = next.receiveRequestId then next else row

@[simp] theorem ScanRow.overwriteBy_receiveRequestId (row next : ScanRow) :
    (row.overwriteBy next).receiveRequestId = row.receiveRequestId := by
  unfold ScanRow.overwriteBy
  split
  · rename_i same
    exact same.symm
  · rfl

def recordStrikeScan (id : Uuid) (offset attempts : Nat) (delay now : Int) (db : Db) :
    Except LedgerError (Unit × Db) := do
  ensure (∃ row ∈ db.strikeReceiveRequests.rows, row.request.receiveRequestId = id)
    (.sqlite (.foreignKey "strike_recovery_scan"))
  let next : ScanRow := ⟨id, offset, attempts, now + delay⟩
  let scans := if fresh : db.strikeRecoveryScan.Fresh next then
      db.strikeRecoveryScan.insert next fresh
    else db.strikeRecoveryScan.update (fun row => row.overwriteBy next)
      fun left right => SameKey.of_preserved (by simp) (by simp)
  return ((), { db with strikeRecoveryScan := scans })

end LightningGoats
