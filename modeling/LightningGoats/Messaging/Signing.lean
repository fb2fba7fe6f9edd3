import LightningGoats.Ledger.Validation

/-! # Signed Nostr events

What the client asks of an event that a signer returned, before the event is
stored and again before it is published.
-/

namespace LightningGoats

open Outcome

structure SignedNostrEvent where
  id : String
  pubkey : String
  createdAt : Nat
  kind : Nat
  tags : List (List String)
  content : String
  sig : String
  deriving DecidableEq, Repr

/-- How events are written and read. -/
class NostrJson where
  encode : SignedNostrEvent → String
  decode : String → Option SignedNostrEvent

/-- What runs of `nak` bring back: the event on its output, if that could be
read, and whether the signature was verified. -/
structure NakReply where
  event : Option SignedNostrEvent
  verified : Bool
  deriving DecidableEq, Repr

inductive SigningError
  | invalidSigned
  | identity
  | hexadecimal (field : String) (expectedLen : Nat)
  | zeroCreatedAt
  | eventKind (value : Nat)
  | otherContent
  | signature
  | invalidPublication
  | otherPublication
  deriving DecidableEq, Repr

def SigningError.message : SigningError → String
  | invalidSigned => "nak returned invalid signed Nostr event JSON"
  | identity =>
      "signed Nostr event pubkey does not match configured Lightning Goats identity"
  | hexadecimal field expectedLen =>
      field ++ " is not valid hexadecimal of length " ++ toString expectedLen
  | zeroCreatedAt => "signed Nostr event has zero created_at"
  | eventKind value => "unexpected signed Nostr event kind " ++ toString value
  | otherContent => "signed Nostr event does not match requested content or tags"
  | signature => "nak rejected persisted Nostr event signature"
  | invalidPublication => "nak returned invalid publication event JSON"
  | otherPublication => "nak publication returned a different persisted event"

def validateHex (value : String) (expectedLen : Nat) (field : String) :
    Except SigningError Unit :=
  ensure (value.utf8ByteSize = expectedLen ∧ value.toList.all isHexDigit = true)
    (.hexadecimal field expectedLen)

def validateSignedEvent (event : SignedNostrEvent) (expectedPubkey : String) :
    Except SigningError Unit := do
  ensure (event.pubkey = expectedPubkey) .identity
  validateHex event.id 64 "Nostr event id"
  validateHex event.pubkey 64 "Nostr pubkey"
  validateHex event.sig 128 "Nostr signature"
  ensure (event.createdAt ≠ 0) .zeroCreatedAt
  ensure (event.kind = 1) (.eventKind event.kind)

def verifyEvent (event : SignedNostrEvent) (expectedPubkey : String) (verified : Bool) :
    Except SigningError Unit := do
  validateSignedEvent event expectedPubkey
  ensure (verified = true) .signature

def signKind1 (projectPubkey content : String) (tags : List (List String)) (reply : NakReply) :
    Except SigningError SignedNostrEvent := do
  let event ← require reply.event .invalidSigned
  validateSignedEvent event projectPubkey
  ensure (event.content = content ∧ event.tags = tags) .otherContent
  verifyEvent event projectPubkey reply.verified
  return event

def publishSigned (projectPubkey : String) (event : SignedNostrEvent) (reply : NakReply) :
    Except SigningError Unit := do
  validateSignedEvent event projectPubkey
  verifyEvent event projectPubkey reply.verified
  let echoed ← require reply.event .invalidPublication
  ensure (echoed = event) .otherPublication

/-- A signed event is the one that was asked for, verified and of the project. -/
theorem signKind1_ok {projectPubkey content : String} {tags : List (List String)}
    {reply : NakReply} {signed : SignedNostrEvent}
    (ran : signKind1 projectPubkey content tags reply = .ok signed) :
    signed.content = content ∧ signed.tags = tags ∧
      validateSignedEvent signed projectPubkey = .ok () := by
  simp only [signKind1, bind_eq_ok, require_eq_ok, ensure_eq_ok, pure_eq_ok] at ran
  rcases ran with ⟨event, _, _, valid, _, same, _, _, rfl⟩
  exact ⟨same.1, same.2, valid⟩

end LightningGoats
