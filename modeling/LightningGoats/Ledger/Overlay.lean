import LightningGoats.Ledger.Events

/-! # Event windows for the overlay

A window is only given out whole: if an event is missing between its ends, or there
is too much of it, there is none.
-/

namespace LightningGoats

open Outcome Relational

/-- How event payloads are written, and what the overlay reads back of them: the time
of an observation, and what that time is in seconds. -/
class OverlayJson where
  encode : List (String × JsonValue) → String
  encodeGoats : List (String × String) → String
  observedAt : JsonValue → Option String
  timestamp : String → Option Int

def maxWindowBytes : Nat := 512 * 1024

/-- The rows `WHERE seq > ? AND seq <= ?`. -/
def windowRows (after through : Nat) (db : Db) : List (Nat × Event) :=
  db.eventLog.entries.filter fun entry => after < entry.1 && entry.1 ≤ through

def windowBytes [OverlayJson] (rows : List (Nat × Event)) : Nat :=
  (rows.map fun entry =>
    (OverlayJson.encode entry.2.payload).utf8ByteSize + entry.2.eventType.utf8ByteSize).sum

def overlayEventWindow [OverlayJson] (after through : Nat) (db : Db) :
    Option (List DurableEvent) :=
  if through < after ∨ 1000 < through - after ∨ maxI64 < through then none
  else
    let rows := windowRows after through db
    if rows.length ≠ through - after ∨ maxWindowBytes < windowBytes rows then none
    else some (rows.map fun entry => ⟨entry.1, entry.2⟩)

end LightningGoats
