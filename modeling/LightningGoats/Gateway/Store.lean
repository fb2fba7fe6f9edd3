import Mathlib.Algebra.Order.Group.Int
import LightningGoats.Foundation.Table
import LightningGoats.Domain.Credit
import LightningGoats.Gateway.Client

/-! # The gateway's durable admissions

A request UUID is decided once: it is reserved, or a refusal is kept as a
tombstone. A reservation is released by the owner's completion alone.
-/

namespace LightningGoats

open Outcome Relational

/-! ## Tables -/

inductive RequestStatus
  | pending
  | acknowledged
  deriving DecidableEq, Repr

structure FeederRequest where
  requestId : Uuid
  status : RequestStatus
  createdAt : Int
  updatedAt : Int
  deriving DecidableEq, Repr

/-- `request_id` is the primary key. -/
def FeederRequest.Clash : FeederRequest → FeederRequest → Prop :=
  SameKey fun request => some request.requestId

structure FeederRefusal where
  requestId : Uuid
  refusal : FeedRefusal
  deriving DecidableEq, Repr

def FeederRefusal.Clash : FeederRefusal → FeederRefusal → Prop :=
  SameKey fun refused => some refused.requestId

inductive AdmissionEvent
  | reserved
  | acknowledged
  deriving DecidableEq, Repr

structure FeederRequestEvent where
  requestId : Uuid
  event : AdmissionEvent
  deriving DecidableEq, Repr

instance : DecidableRel FeederRequest.Clash :=
  inferInstanceAs (DecidableRel (SameKey _))

instance : DecidableRel FeederRefusal.Clash :=
  inferInstanceAs (DecidableRel (SameKey _))

instance : Std.Symm FeederRequest.Clash :=
  inferInstanceAs (Std.Symm (SameKey _))

instance : Std.Symm FeederRefusal.Clash :=
  inferInstanceAs (Std.Symm (SameKey _))

structure GatewayDb where
  feederRequests : Table FeederRequest.Clash
  feederRefusals : Table FeederRefusal.Clash
  feederRequestEvents : List FeederRequestEvent

def GatewayDb.empty : GatewayDb where
  feederRequests := .empty
  feederRefusals := .empty
  feederRequestEvents := []

inductive GatewayError
  | limitRange
  | safetyLimits
  | delayRange
  | constraint (table : String)
  | notAcknowledged
  deriving DecidableEq, Repr

def GatewayError.message : GatewayError → String
  | limitRange => "out of range integral type conversion attempted"
  | safetyLimits => "invalid gateway safety limits"
  | delayRange => "mismatched types"
  | constraint table => "UNIQUE constraint failed: " ++ table ++ ".request_id"
  | notAcknowledged => "gateway feeder request could not be marked acknowledged"

/-! ## Reading a decision -/

/-- `SELECT status FROM feeder_requests WHERE request_id = ?` -/
def statusStr (requestId : Uuid) (db : GatewayDb) : Option RequestStatus :=
  (db.feederRequests.rows.find? fun row => row.requestId = requestId).map FeederRequest.status

/-- `SELECT refusal_json FROM feeder_refusals WHERE request_id = ?` -/
def refusalJson (requestId : Uuid) (db : GatewayDb) : Option FeedRefusal :=
  (db.feederRefusals.rows.find? fun row => row.requestId = requestId).map FeederRefusal.refusal

inductive StoredRequestStatus
  | pending
  | acknowledged
  | notDispatched (refusal : FeedRefusal)
  deriving DecidableEq, Repr

/-- What the two reads of `status` make of each other. -/
def storedStatus (row : Option RequestStatus) (refusal : Option FeedRefusal) :
    Option StoredRequestStatus :=
  match row with
  | none => refusal.map .notDispatched
  | some .pending => some .pending
  | some .acknowledged => some .acknowledged

def requestStatus (requestId : Uuid) (db : GatewayDb) : Option StoredRequestStatus :=
  storedStatus (statusStr requestId db) (refusalJson requestId db)

/-! ## Admission -/

inductive BeginRequestOutcome
  | new
  | pending
  | acknowledged
  | notDispatched (refusal : FeedRefusal)
  deriving DecidableEq, Repr

structure AdmissionLimits where
  minInterval : Nat
  maxPerHour : Nat
  deriving DecidableEq, Repr

/-- `MAX(updated_at) + interval - unixepoch()`. A sum beyond the integers is a
real number, which does not decode. -/
def intervalDelay (interval now : Int) (updates : List Int) : Except GatewayError Int :=
  match updates.max? with
  | none => .ok 0
  | some latest =>
      if latest + interval ≤ maxAccountingUnits then .ok (latest + interval - now)
      else .error .delayRange

/-- `unixepoch() - 3600 <= updated_at` -/
def withinHour (now : Int) (updates : List Int) : List Int :=
  updates.filter fun updatedAt => now - 3600 ≤ updatedAt

def capacityDelay (cap now : Int) (updates : List Int) : Int :=
  if cap ≤ (withinHour now updates).length then
    match (withinHour now updates).min? with
    | none => 0
    | some oldest => oldest + 3601 - now
  else 0

def admissionDelay (limits : AdmissionLimits) (now : Int) (updates : List Int) :
    Except GatewayError Int := do
  let sinceLast ← intervalDelay limits.minInterval now updates
  return max 0 (max sinceLast (capacityDelay limits.maxPerHour now updates))

def newRefusal (safetyRefusal pending : Bool) (delay : Int) : Option FeedRefusal :=
  if safetyRefusal then some ⟨.safety, 5⟩
  else if pending then some ⟨.unresolved, 5⟩
  else if 0 < delay then some ⟨.capacity, min delay.toNat 86400⟩
  else none

def insertRefusal (requestId : Uuid) (refusal : FeedRefusal) (db : GatewayDb) :
    Except GatewayError GatewayDb :=
  if fresh : db.feederRefusals.Fresh ⟨requestId, refusal⟩ then
    .ok { db with feederRefusals := db.feederRefusals.insert _ fresh }
  else .error (.constraint "feeder_refusals")

def insertRequest (requestId : Uuid) (now : Int) (db : GatewayDb) :
    Except GatewayError GatewayDb :=
  if fresh : db.feederRequests.Fresh ⟨requestId, .pending, now, now⟩ then
    .ok { db with
      feederRequests := db.feederRequests.insert _ fresh
      feederRequestEvents := db.feederRequestEvents ++ [⟨requestId, .reserved⟩] }
  else .error (.constraint "feeder_requests")

/-- The clock is read by the delay and again by the row that is inserted. -/
def beginRequest (requestId : Uuid) (limits : AdmissionLimits) (safetyRefusal : Bool)
    (checkedAt insertedAt : Int) (db : GatewayDb) :
    Except GatewayError (BeginRequestOutcome × GatewayDb) := do
  ensure (limits.minInterval ≤ maxAccountingUnits ∧ limits.maxPerHour ≤ maxAccountingUnits)
    .limitRange
  ensure (5 ≤ limits.minInterval ∧ 1 ≤ limits.maxPerHour) .safetyLimits
  match statusStr requestId db, refusalJson requestId db with
  | some .pending, _ => return (.pending, db)
  | some .acknowledged, _ => return (.acknowledged, db)
  | none, some refusal => return (.notDispatched refusal, db)
  | none, none =>
      let pending := db.feederRequests.rows.any fun row => row.status = .pending
      let delay ← admissionDelay limits checkedAt
        (db.feederRequests.rows.map FeederRequest.updatedAt)
      match newRefusal safetyRefusal pending delay with
      | some refusal =>
          let refused ← insertRefusal requestId refusal db
          return (.notDispatched refusal, refused)
      | none =>
          let admitted ← insertRequest requestId insertedAt db
          return (.new, admitted)

/-! ## Acknowledgement -/

def FeederRequest.acknowledge (requestId : Uuid) (now : Int) (row : FeederRequest) :
    FeederRequest :=
  if row.requestId = requestId ∧ row.status = .pending then
    { row with status := .acknowledged, updatedAt := now }
  else row

@[simp] theorem FeederRequest.acknowledge_requestId (requestId : Uuid) (now : Int)
    (row : FeederRequest) : (row.acknowledge requestId now).requestId = row.requestId := by
  unfold acknowledge
  split
  · rfl
  · rfl

@[simp] theorem FeederRequest.acknowledge_createdAt (requestId : Uuid) (now : Int)
    (row : FeederRequest) : (row.acknowledge requestId now).createdAt = row.createdAt := by
  unfold acknowledge
  split
  · rfl
  · rfl

/-- `UPDATE feeder_requests SET status = 'acknowledged' … AND status = 'pending'` -/
def setAcknowledged (requestId : Uuid) (now : Int) (requests : Table FeederRequest.Clash) :
    Table FeederRequest.Clash :=
  requests.update (FeederRequest.acknowledge requestId now)
    fun _ _ clashes => clashes.of_preserved (by simp) (by simp)

@[simp] theorem rows_setAcknowledged (requestId : Uuid) (now : Int)
    (requests : Table FeederRequest.Clash) :
    (setAcknowledged requestId now requests).rows =
      requests.rows.map (FeederRequest.acknowledge requestId now) :=
  Table.rows_update _ _ _

/-- The transaction of `mark_acknowledged`, with whether it changed a row. -/
def acknowledgeRequest (requestId : Uuid) (now : Int) (db : GatewayDb) : Bool × GatewayDb :=
  let rowsAffected := (db.feederRequests.rows.filter fun row =>
    row.requestId = requestId && row.status = .pending).length
  let updated := setAcknowledged requestId now db.feederRequests
  if rowsAffected = 1 then
    (true, { db with
      feederRequests := updated
      feederRequestEvents := db.feederRequestEvents ++ [⟨requestId, .acknowledged⟩] })
  else (false, { db with feederRequests := updated })

/-- What `mark_acknowledged` returns once it knows the rows affected and, if there
were none, the status read afterwards. -/
def acknowledgement (changed : Bool) (status : Option StoredRequestStatus) :
    Except GatewayError Unit :=
  if changed then .ok ()
  else if status = some .acknowledged then .ok ()
  else .error .notAcknowledged

end LightningGoats
