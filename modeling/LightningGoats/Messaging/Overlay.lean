import LightningGoats.Foundation.LogCursor
import LightningGoats.Ledger.Overlay
import LightningGoats.Ledger.Store
import LightningGoats.Messaging.Presentation

/-! # The overlay's connection

A connection sends a snapshot of the ledger, and from then on every event that is
appended. A client that comes back is sent what it missed first. Where events cannot be
sent there is another snapshot.
-/

namespace LightningGoats

open Outcome Relational LogCursor

structure OverlayResume where
  version : Option Nat
  stream : Option Uuid
  after : Option Nat
  deriving DecidableEq, Repr

def OverlayResume.isValid (resume : OverlayResume) : Bool :=
  !(resume.version.any (· ≠ 1) || resume.after.any (maxI64 < ·) ||
    resume.after.isSome && (resume.version ≠ some 1 || resume.stream.isNone))

abbrev OverlayBody := List (String × JsonValue)

/-- `Map::insert` -/
def setField (name : String) (value : JsonValue) (body : OverlayBody) : OverlayBody :=
  if body.any fun field => field.1 = name then
    body.map fun field => if field.1 = name then (name, value) else field
  else body ++ [(name, value)]

/-- What waits to be sent: an event, with the time of its observation if it is about
the weather, or a snapshot. -/
inductive Queued
  | event (seq : Nat) (body : OverlayBody) (weatherObservedAt : Option String)
  | snapshot (seq : Nat) (body : OverlayBody)

def Queued.body : Queued → OverlayBody
  | event _ body _ => body
  | snapshot _ body => body

def Queued.seq : Queued → Nat
  | event seq _ _ => seq
  | snapshot seq _ => seq

def maxMessage : Nat := 16 * 1024

def maxQueue : Nat := 512 * 1024

/-! ## Bodies -/

section Bodies

variable [OverlayJson]

def observationEpoch (raw : String) : Option Int := do
  let epoch ← OverlayJson.timestamp raw
  if epoch < 0 then none else some epoch

def validateObservationTime (raw : String) (now maxStale : Int) : Option Int := do
  let epoch ← observationEpoch raw
  if 30 < epoch - now ∨ maxStale < now - epoch then none else some epoch

def freshObservation (raw : Option String) (now : Int) : Bool :=
  raw.any fun time => (validateObservationTime time now 300).isSome

def skippedWeather (seq : Nat) : OverlayBody :=
  [("type", .string "event_skipped"), ("source_type", .string "weather_status"),
    ("seq", .number seq), ("reason", .string "stale_or_invalid_observation")]

def bodySize (body : OverlayBody) : Nat :=
  (OverlayJson.encode body).utf8ByteSize

def observedAt (body : OverlayBody) : Option String :=
  (body.lookup "data").bind OverlayJson.observedAt

def Queued.currentBody (now : Int) : Queued → OverlayBody
  | .event seq body weatherObservedAt =>
      if weatherObservedAt.isSome && !freshObservation weatherObservedAt now then
        skippedWeather seq
      else body
  | .snapshot _ body => body

structure OverlayService where
  catalog : TemplateCatalog
  choice : StableIndex
  thresholdSats : Nat
  stream : Uuid

def OverlayService.durableEventMessage (service : OverlayService) (event : DurableEvent)
    (now : Int) : Except PresentationError OverlayBody :=
  if event.event.eventType = "weather_status" ∧
      freshObservation (observedAt event.event.payload) now = false then
    return skippedWeather event.seq
  else do
    let presentation ← render service.catalog service.choice event service.thresholdSats
    let typed := setField "type"
      (.string (presentation.overlayType.getD event.event.eventType)) event.event.payload
    let numbered := setField "seq" (.number event.seq)
      (setField "source_type" (.string event.event.eventType) typed)
    let described := match presentation.overlayMessage with
      | some message => setField "message" (.string message) numbered
      | none => numbered
    if presentation.overlayGoats = [] then return described
    else return setField "goats" (.raw (OverlayJson.encodeGoats
      (presentation.overlayGoats.map fun goat => (goat.name, goat.imageUrl)))) described

def OverlayService.renderWindow (service : OverlayService) (clock : Nat → Int) :
    List DurableEvent → Nat → Option (List Queued)
  | [], _ => some []
  | event :: events, size =>
      match service.durableEventMessage event (clock event.seq) with
      | .error _ => none
      | .ok body =>
          if maxMessage < bodySize body ∨ maxQueue < size + bodySize body then none
          else do
            let rest ← service.renderWindow clock events (size + bodySize body)
            let weatherObservedAt :=
              if event.event.eventType = "weather_status" then observedAt body else none
            some (.event event.seq body weatherObservedAt :: rest)

def OverlayService.snapshot (service : OverlayService) (reason : Option String) (db : Db) :
    Except LedgerError Queued := do
  let message ← overlaySnapshotMessage service.thresholdSats db
  let versioned := setField "stream_id" (.string service.stream.toText)
    (setField "version" (.number 1) message.2)
  return .snapshot message.1 (match reason with
    | some reason => setField "reset_reason" (.string reason) versioned
    | none => versioned)

end Bodies

/-! ## The connection -/

/-- Where a connection is. Between any two of these the ledger may go on. -/
inductive OverlayPhase
  | connecting
  | opened (checkpoint : Queued)
  | unavailable
  | serving (lastSeq : Nat) (queue : List Queued)
  | polling (lastSeq latest : Nat)
  | missing (lastSeq : Nat)
  | closed

structure OverlayConnection where
  db : Db
  phase : OverlayPhase
  sent : List (Notice OverlayBody OverlayBody)

/-- What happens next: a call of the ledger, any other event that is appended, a step
of the connection, or its end. -/
inductive OverlayLabel
  | ledger (call : LedgerCall) (now : Int)
  | appends (eventType : String) (payload : List (String × JsonValue))
  | opens
  | resumes (clock : Nat → Int)
  | resnapshots
  | sends (now : Int)
  | polls
  | reads (clock : Nat → Int)
  | snapshots
  | closes

section Connection

variable [SerdeJson] [OverlayJson]

def Queued.notice (now : Int) (queued : Queued) : Notice OverlayBody OverlayBody :=
  match queued with
  | .event seq _ _ => .entry seq (queued.currentBody now)
  | .snapshot seq body => .state seq body

/-- The events after a resume request, if they can all be sent with the checkpoint. -/
def OverlayService.replay (service : OverlayService) (resume : OverlayResume) (after : Nat)
    (checkpoint : Queued) (clock : Nat → Int) (db : Db) : Option (List Queued) := do
  let replayed ← if resume.stream = some service.stream then
    (overlayEventWindow after checkpoint.seq db).bind fun events =>
      service.renderWindow clock events 0
    else none
  if (replayed.map fun queued => bodySize queued.body).sum + bodySize checkpoint.body ≤ maxQueue
  then some replayed else none

/-- A label whose turn it is not changes nothing. -/
def OverlayService.step (service : OverlayService) (resume : OverlayResume)
    (label : OverlayLabel) (state : OverlayConnection) : OverlayConnection :=
  match label, state.phase with
  | .ledger call now, _ => { state with db := (execute call now state.db).2 }
  | .appends eventType payload, _ => { state with
      db := (appendEventInTransaction eventType payload state.db).1 }
  | .opens, .connecting =>
      if resume.isValid then
        match service.snapshot none state.db with
        | .ok checkpoint => { state with phase := .opened checkpoint }
        | .error _ => { state with phase := .closed }
      else { state with phase := .closed }
  | .resumes clock, .opened checkpoint =>
      match resume.after with
      | none => { state with phase := .serving checkpoint.seq [checkpoint] }
      | some after =>
          match service.replay resume after checkpoint clock state.db with
          | some replayed => { state with
              phase := .serving after (replayed ++ [checkpoint])
              sent := state.sent ++ [.resume after checkpoint.seq] }
          | none => { state with phase := .unavailable }
  | .resnapshots, .unavailable =>
      match service.snapshot (some "resume_unavailable") state.db with
      | .ok checkpoint => { state with phase := .serving checkpoint.seq [checkpoint] }
      | .error _ => { state with phase := .closed }
  | .sends now, .serving _ (next :: queue) => { state with
      phase := .serving next.seq queue
      sent := state.sent ++ [next.notice now] }
  | .polls, .serving lastSeq [] =>
      if latestEventSeq state.db = lastSeq then state
      else { state with phase := .polling lastSeq (latestEventSeq state.db) }
  | .reads clock, .polling lastSeq latest =>
      match (overlayEventWindow lastSeq (min latest (lastSeq + 100)) state.db).bind fun events =>
          service.renderWindow clock events 0 with
      | some messages => { state with phase := .serving lastSeq messages }
      | none => { state with phase := .missing lastSeq }
  | .snapshots, .missing lastSeq =>
      match service.snapshot (some "event_window_unavailable") state.db with
      | .ok checkpoint => { state with phase := .serving lastSeq [checkpoint] }
      | .error _ => { state with phase := .closed }
  | .closes, _ => { state with phase := .closed }
  | _, _ => state

def OverlayService.run (service : OverlayService) (resume : OverlayResume)
    (labels : List OverlayLabel) (state : OverlayConnection) : OverlayConnection :=
  labels.foldl (fun current label => service.step resume label current) state

end Connection

/-- A connection that has just been accepted, with the ledger as it is then. -/
def OverlayConnection.accept (db : Db) : OverlayConnection :=
  ⟨db, .connecting, []⟩

end LightningGoats
