import Mathlib.Logic.Function.Basic
import LightningGoats.Foundation.LogCursor
import LightningGoats.Messaging.Processor
import LightningGoats.Messaging.Signing
import LightningGoats.Ledger.Store

/-! # The message system

Any number of processors read the cursor, the event after it and have it signed,
and pass it in one transaction; one publisher works off the outbox. Each of them
can fail or stop between any two of its steps.
-/

namespace LightningGoats

open Outcome Relational LogCursor

structure MessageService where
  catalog : TemplateCatalog
  choice : StableIndex
  thresholdSats : Nat
  mode : RuntimeMode
  projectPubkey : String

/-- Where a call of `process_next_message` is. -/
inductive MessageWorker
  | idle
  | atCursor (cursor : Nat)
  | skipping (event : DurableEvent)
  | signing (event : DurableEvent) (content : String)
  | enqueueing (event : DurableEvent) (signed : SignedNostrEvent)

/-- Where the loop of `run_outbox_publisher` is. -/
inductive OutboxPublisher
  | idle
  | publishing (entry : OutboxEntry) (event : SignedNostrEvent)
  | published (entry : OutboxEntry)
  | failing (entry : OutboxEntry) (error : String)

structure MessageState where
  db : Db
  outbox : Outbox
  workers : Nat → MessageWorker
  publisher : OutboxPublisher

def MessageState.start : MessageState where
  db := .fresh
  outbox := ⟨.empty, 0⟩
  workers := fun _ => .idle
  publisher := .idle

/-! ## One processor -/

namespace MessageService

variable (service : MessageService)

def prepare (event : DurableEvent) : Except PresentationError Preparation :=
  prepareMessage service.catalog service.choice service.thresholdSats service.mode event

def publicContent (event : DurableEvent) : Option String :=
  if service.mode.nostrEnabled then
    match render service.catalog service.choice event service.thresholdSats with
    | .ok rendered => rendered.nostrContent
    | .error _ => none
  else none

def readCursor (outbox : Outbox) : MessageWorker :=
  if service.thresholdSats = 0 then .idle
  else match messageCursor outbox with
    | .ok cursor => .atCursor cursor
    | .error _ => .idle

def readEvent (cursor : Nat) (db : Db) : MessageWorker :=
  match eventsAfter cursor 1 db with
  | .ok (event :: _) =>
      match service.prepare event with
      | .ok (.sign content) => .signing event content
      | .ok _ => .skipping event
      | .error _ => .idle
  | _ => .idle

def sign (event : DurableEvent) (content : String) (reply : NakReply) : MessageWorker :=
  match signKind1 service.projectPubkey content [["t", "LightningGoats"]] reply with
  | .ok signed => .enqueueing event signed
  | .error _ => .idle

end MessageService

def passEvent [NostrJson] (worker : MessageWorker) (now : Int) (outbox : Outbox) : Outbox :=
  let passed := match worker with
    | .skipping event => advanceMessageCursor event.seq outbox
    | .enqueueing event signed =>
        enqueueSignedMessage event.seq signed.id (NostrJson.encode signed) now outbox
    | _ => .ok outbox
  match passed with
  | .ok committed => committed
  | .error _ => outbox

/-! ## The publisher -/

def fetchEntry [NostrJson] (outbox : Outbox) : OutboxPublisher :=
  match nextOutboxEntry outbox with
  | .ok (some entry) =>
      match NostrJson.decode entry.signedEventJson with
      | some event => .publishing entry event
      | none => .failing entry "invalid signed event JSON"
  | _ => .idle

def publish (projectPubkey : String) (entry : OutboxEntry) (event : SignedNostrEvent)
    (reply : NakReply) : OutboxPublisher :=
  match publishSigned projectPubkey event reply with
  | .ok _ => .published entry
  | .error error => .failing entry error.message

def markEntry (publisher : OutboxPublisher) (outbox : Outbox) : Outbox :=
  let marked := match publisher with
    | .published entry => markOutboxPublished entry.eventId outbox
    | .failing entry error => markOutboxFailed entry.eventId error outbox
    | _ => .ok outbox
  match marked with
  | .ok committed => committed
  | .error _ => outbox

/-! ## The system -/

/-- What happens next: a call of the ledger, any other event that is appended, a step
of a processor or of the publisher, or the end of one of them. -/
inductive MessageLabel
  | ledger (call : LedgerCall) (now : Int)
  | appends (eventType : String) (payload : List (String × JsonValue))
  | readsCursor (worker : Nat)
  | readsEvent (worker : Nat)
  | signs (worker : Nat) (reply : NakReply)
  | passes (worker : Nat) (now : Int)
  | abandons (worker : Nat)
  | fetches
  | publishes (reply : NakReply)
  | marks
  | stops

def MessageState.setWorker (state : MessageState) (worker : Nat) (phase : MessageWorker) :
    MessageState :=
  { state with workers := Function.update state.workers worker phase }

/-- A label whose turn it is not changes nothing. -/
def MessageService.step [SerdeJson] [NostrJson] (service : MessageService)
    (label : MessageLabel) (state : MessageState) : MessageState :=
  match label with
  | .ledger call now => { state with db := (execute call now state.db).2 }
  | .appends eventType payload =>
      { state with db := (appendEventInTransaction eventType payload state.db).1 }
  | .readsCursor worker =>
      match state.workers worker with
      | .idle => state.setWorker worker (service.readCursor state.outbox)
      | _ => state
  | .readsEvent worker =>
      match state.workers worker with
      | .atCursor cursor => state.setWorker worker (service.readEvent cursor state.db)
      | _ => state
  | .signs worker reply =>
      match state.workers worker with
      | .signing event content => state.setWorker worker (service.sign event content reply)
      | _ => state
  | .passes worker now =>
      { state with outbox := passEvent (state.workers worker) now state.outbox }.setWorker
        worker .idle
  | .abandons worker => state.setWorker worker .idle
  | .fetches =>
      match state.publisher with
      | .idle => { state with publisher := fetchEntry state.outbox }
      | _ => state
  | .publishes reply =>
      match state.publisher with
      | .publishing entry event =>
          { state with publisher := publish service.projectPubkey entry event reply }
      | _ => state
  | .marks =>
      match state.publisher with
      | .publishing _ _ => state
      | _ => { state with
          outbox := markEntry state.publisher state.outbox
          publisher := .idle }
  | .stops => { state with publisher := .idle }

def MessageService.run [SerdeJson] [NostrJson] (service : MessageService)
    (labels : List MessageLabel) (state : MessageState) : MessageState :=
  labels.foldl (fun current label => service.step label current) state

/-! ## What a run leaves behind -/

def cursorMove (before after : MessageState) : List (Int × Int) :=
  if after.outbox.messageCursor = before.outbox.messageCursor then []
  else [(before.outbox.messageCursor, after.outbox.messageCursor)]

def MessageService.cursorMoves [SerdeJson] [NostrJson] (service : MessageService) :
    List MessageLabel → MessageState → List (Int × Int)
  | [], _ => []
  | label :: labels, state =>
      cursorMove state (service.step label state) ++
        service.cursorMoves labels (service.step label state)

def MessageService.acceptance (service : MessageService) (label : MessageLabel)
    (state : MessageState) : List SignedNostrEvent :=
  match label, state.publisher with
  | .publishes reply, .publishing _ event =>
      match publishSigned service.projectPubkey event reply with
      | .ok _ => [event]
      | .error _ => []
  | _, _ => []

def MessageService.acceptances [SerdeJson] [NostrJson] (service : MessageService) :
    List MessageLabel → MessageState → List SignedNostrEvent
  | [], _ => []
  | label :: labels, state =>
      service.acceptance label state ++ service.acceptances labels (service.step label state)

end LightningGoats
