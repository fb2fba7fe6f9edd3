import LightningGoats.Feeder.OwnerResult
import LightningGoats.Gateway.Admissions

/-! # The gateway's request handlers

A handler performs one statement at a time: a read of the store, a transaction,
a safety reading, the command to the owner, or a question about its result.
What it does next depends on the answer alone.
-/

namespace LightningGoats

open Outcome

/-! ## Responses -/

inductive FeedMethod
  | post
  | get
  deriving DecidableEq, Repr

def outcomeResponse (code : Nat) (requestId : Uuid) (status : FeedOutcome) : HttpResponse :=
  ⟨code, .status ⟨requestId, status, none⟩⟩

def refusalResponse (requestId : Uuid) (refusal : FeedRefusal) : HttpResponse :=
  ⟨if refusal.reason = .capacity then 429 else 423,
    .status ⟨requestId, .notDispatched, some refusal⟩⟩

def publicError (code : Nat) (reason : String) : HttpResponse :=
  ⟨code, .error reason⟩

def internalFailure (publicReason : String) : HttpResponse :=
  publicError 502 publicReason

/-! ## Control flow -/

inductive HandlerPc
  | readStatus (method : FeedMethod)
  | readRefusal (method : FeedMethod)
  | readSafety
  | begin (safetyRefusal : Bool)
  | command
  | awaitOwner (polling : Bool)
  | acknowledge
  | recheckStatus
  | recheckRefusal
  | done
  deriving DecidableEq, Repr

inductive Next
  | goto (pc : HandlerPc)
  | respond (response : HttpResponse)
  deriving DecidableEq, Repr

def existingResponse (requestId : Uuid) : StoredRequestStatus → Next
  | .acknowledged => .respond (outcomeResponse 200 requestId .confirmed)
  | .pending => .goto (.awaitOwner false)
  | .notDispatched refusal => .respond (refusalResponse requestId refusal)

/-- `submit_feed_request` and `lookup_feed_request` once they know the status. -/
def afterStatus (method : FeedMethod) (requestId : Uuid) :
    Option StoredRequestStatus → Next
  | some status => existingResponse requestId status
  | none =>
      match method with
      | .post => .goto .readSafety
      | .get => .respond (publicError 404 "Unknown feeder request UUID")

/-- The refusals are read only if there is no request row. -/
def afterStatusStr (method : FeedMethod) (requestId : Uuid) : Option RequestStatus → Next
  | none => .goto (.readRefusal method)
  | some row => afterStatus method requestId (storedStatus (some row) none)

/-- Anything but an override that is off and a remote that is on refuses. -/
def isSafetyRefusal (reading : Option (Bool × Bool)) : Bool :=
  reading ≠ some (false, true)

def afterBegin (requestId : Uuid) : BeginRequestOutcome → Next
  | .new => .goto .command
  | .notDispatched refusal => .respond (refusalResponse requestId refusal)
  | .acknowledged => .respond (outcomeResponse 200 requestId .confirmed)
  | .pending => .goto (.awaitOwner false)

def afterCommand (requestId : Uuid) (accepted : Bool) : Next :=
  if accepted then .goto (.awaitOwner true)
  else .respond (outcomeResponse 409 requestId .ambiguous)

def handleExistingPending (requestId : Uuid) : Option OwnerOutcome → Next
  | some .complete => .goto .acknowledge
  | some .absent => .respond (outcomeResponse 202 requestId .pending)
  | some .pending => .respond (outcomeResponse 202 requestId .pending)
  | some .rejected => .respond (outcomeResponse 409 requestId .ambiguous)
  | some .ambiguous => .respond (outcomeResponse 409 requestId .ambiguous)
  | none => .respond (internalFailure "OpenHAB feeder acknowledgement unavailable")

/-- One round of `wait_for_ack`. An error and a timeout are no answer. -/
def waitForAck (requestId : Uuid) (pastDeadline : Bool) : Option OwnerOutcome → Next
  | some .complete => .goto .acknowledge
  | some .absent => again
  | some .pending => again
  | some .rejected => .respond (outcomeResponse 409 requestId .ambiguous)
  | some .ambiguous => .respond (outcomeResponse 409 requestId .ambiguous)
  | none => .respond (outcomeResponse 409 requestId .ambiguous)
where
  again : Next :=
    if pastDeadline then .respond (outcomeResponse 504 requestId .ambiguous)
    else .goto (.awaitOwner true)

def afterOwner (requestId : Uuid) (polling pastDeadline : Bool)
    (answer : Option OwnerOutcome) : Next :=
  if polling then waitForAck requestId pastDeadline answer
  else handleExistingPending requestId answer

def afterAcknowledgement (requestId : Uuid) : Except GatewayError Unit → Next
  | .ok () => .respond (outcomeResponse 200 requestId .confirmed)
  | .error _ => .respond (internalFailure "Unable to persist feeder acknowledgement")

/-- The status is read again only if the update changed no row. -/
def afterAcknowledge (requestId : Uuid) (changed : Bool) : Next :=
  if changed then afterAcknowledgement requestId (acknowledgement true none)
  else .goto .recheckStatus

def afterRecheck (requestId : Uuid) : Option RequestStatus → Next
  | none => .goto .recheckRefusal
  | some row => afterAcknowledgement requestId
      (acknowledgement false (storedStatus (some row) none))

def HandlerPc.storeFailure : HandlerPc → Option String
  | readStatus _ => some "Unable to read feeder request status"
  | readRefusal _ => some "Unable to read feeder request status"
  | begin _ => some "Unable to persist feeder admission"
  | acknowledge => some "Unable to persist feeder acknowledgement"
  | recheckStatus => some "Unable to persist feeder acknowledgement"
  | recheckRefusal => some "Unable to persist feeder acknowledgement"
  | _ => none

/-! ## Statements -/

inductive HandlerEvent
  | statusRead (row : Option RequestStatus)
  | refusalRead (refusal : Option FeedRefusal)
  | safetyRead (reading : Option (Bool × Bool))
  | began (outcome : BeginRequestOutcome)
  | commanded (sent accepted : Bool)
  | ownerRead (answer : Option OwnerOutcome)
  | acknowledged (changed : Bool)
  | storeFailed
  | timedOut
  | dropped
  deriving DecidableEq, Repr

/-- One statement of a handler. Safety readings and answers of the owner are
arbitrary, and at any point the store can fail, the request time out, or the
handler disappear with its process. -/
inductive Acts (requestId : Uuid) :
    HandlerPc → GatewayDb → HandlerEvent → Next → GatewayDb → Prop
  | statusRead (method : FeedMethod) (db : GatewayDb) :
      Acts requestId (.readStatus method) db (.statusRead (statusStr requestId db))
        (afterStatusStr method requestId (statusStr requestId db)) db
  | refusalRead (method : FeedMethod) (db : GatewayDb) :
      Acts requestId (.readRefusal method) db (.refusalRead (refusalJson requestId db))
        (afterStatus method requestId (storedStatus none (refusalJson requestId db))) db
  | safetyRead (reading : Option (Bool × Bool)) (db : GatewayDb) :
      Acts requestId .readSafety db (.safetyRead reading)
        (.goto (.begin (isSafetyRefusal reading))) db
  | began {limits : AdmissionLimits} {safetyRefusal : Bool} {checkedAt insertedAt : Int}
      {db after : GatewayDb} {outcome : BeginRequestOutcome}
      (ran : beginRequest requestId limits safetyRefusal checkedAt insertedAt db =
        .ok (outcome, after)) :
      Acts requestId (.begin safetyRefusal) db (.began outcome) (afterBegin requestId outcome)
        after
  | commanded {sent accepted : Bool} (delivered : accepted = true → sent = true)
      (db : GatewayDb) :
      Acts requestId .command db (.commanded sent accepted) (afterCommand requestId accepted) db
  | ownerRead (polling pastDeadline : Bool) (answer : Option OwnerOutcome) (db : GatewayDb) :
      Acts requestId (.awaitOwner polling) db (.ownerRead answer)
        (afterOwner requestId polling pastDeadline answer) db
  | acknowledged {now : Int} {db after : GatewayDb} {changed : Bool}
      (ran : acknowledgeRequest requestId now db = (changed, after)) :
      Acts requestId .acknowledge db (.acknowledged changed)
        (afterAcknowledge requestId changed) after
  | recheckedStatus (db : GatewayDb) :
      Acts requestId .recheckStatus db (.statusRead (statusStr requestId db))
        (afterRecheck requestId (statusStr requestId db)) db
  | recheckedRefusal (db : GatewayDb) :
      Acts requestId .recheckRefusal db (.refusalRead (refusalJson requestId db))
        (afterAcknowledgement requestId
          (acknowledgement false (storedStatus none (refusalJson requestId db)))) db
  | storeFailed {pc : HandlerPc} {reason : String} (fails : pc.storeFailure = some reason)
      (db : GatewayDb) :
      Acts requestId pc db .storeFailed (.respond (internalFailure reason)) db
  | timedOut {pc : HandlerPc} (running : pc ≠ .done) (db : GatewayDb) :
      Acts requestId pc db .timedOut (.respond (outcomeResponse 504 requestId .ambiguous)) db
  | dropped {pc : HandlerPc} (running : pc ≠ .done) (db : GatewayDb) :
      Acts requestId pc db .dropped (.goto .done) db

/-! ## The gateway -/

structure Handler where
  exchange : Nat
  requestId : Uuid
  pc : HandlerPc
  deriving DecidableEq, Repr

/-- The shared store, the handlers of all processes, and what has been said so far:
the commands sent to the owner, the completions it reported and the responses. -/
structure Gateway where
  db : GatewayDb
  handlers : List Handler
  commands : List Uuid
  completions : List Uuid
  responses : List (Nat × HttpResponse)

def Gateway.initial : Gateway where
  db := .empty
  handlers := []
  commands := []
  completions := []
  responses := []

def Next.pc : Next → HandlerPc
  | goto target => target
  | respond _ => .done

def Next.responses (exchange : Nat) : Next → List (Nat × HttpResponse)
  | goto _ => []
  | respond response => [(exchange, response)]

def HandlerEvent.commands (requestId : Uuid) : HandlerEvent → List Uuid
  | commanded true _ => [requestId]
  | _ => []

def HandlerEvent.completions (requestId : Uuid) : HandlerEvent → List Uuid
  | ownerRead (some .complete) => [requestId]
  | _ => []

def Gateway.receive (gateway : Gateway) (method : FeedMethod) (exchange : Nat)
    (requestId : Uuid) : Gateway :=
  { gateway with handlers := gateway.handlers ++ [⟨exchange, requestId, .readStatus method⟩] }

def Gateway.advance (gateway : Gateway) (index : Nat) (handler : Handler)
    (event : HandlerEvent) (next : Next) (db : GatewayDb) : Gateway where
  db := db
  handlers := gateway.handlers.set index { handler with pc := next.pc }
  commands := gateway.commands ++ event.commands handler.requestId
  completions := gateway.completions ++ event.completions handler.requestId
  responses := gateway.responses ++ next.responses handler.exchange

inductive GatewayEvent
  | received (method : FeedMethod) (exchange : Nat)
  | acted (event : HandlerEvent)
  deriving DecidableEq, Repr

structure GatewayLabel where
  handler : Nat
  requestId : Uuid
  event : GatewayEvent
  deriving DecidableEq, Repr

inductive GatewayStep : Gateway → GatewayLabel → Gateway → Prop
  | receives (gateway : Gateway) (method : FeedMethod) (exchange : Nat) (requestId : Uuid) :
      GatewayStep gateway
        ⟨gateway.handlers.length, requestId, .received method exchange⟩
        (gateway.receive method exchange requestId)
  | acts {gateway : Gateway} {index : Nat} {handler : Handler} {event : HandlerEvent}
      {next : Next} {db : GatewayDb} (running : gateway.handlers[index]? = some handler)
      (acts : Acts handler.requestId handler.pc gateway.db event next db) :
      GatewayStep gateway ⟨index, handler.requestId, .acted event⟩
        (gateway.advance index handler event next db)

abbrev GatewayRun : Gateway → List GatewayLabel → Gateway → Prop :=
  Execution.Run GatewayStep

end LightningGoats
