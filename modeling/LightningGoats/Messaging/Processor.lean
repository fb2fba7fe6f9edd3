import LightningGoats.Ledger.Outbox
import LightningGoats.Messaging.Presentation

/-! # The message processor -/

namespace LightningGoats

open Outcome

inductive RuntimeMode
  | shadow
  | canary
  | active
  deriving DecidableEq, Repr

namespace RuntimeMode

def nostrEnabled : RuntimeMode → Bool
  | shadow | canary => false
  | active => true

end RuntimeMode

inductive Preparation
  | publicationDisabled
  | nonPublicSkipped
  | sign (content : String)
  deriving DecidableEq, Repr

/-- What the processor decides between reading an event and moving its cursor. -/
def prepareMessage (catalog : TemplateCatalog) (choice : StableIndex) (thresholdSats : Nat)
    (mode : RuntimeMode) (event : DurableEvent) : Except PresentationError Preparation :=
  if mode.nostrEnabled then do
    let rendered ← render catalog choice event thresholdSats
    match rendered.nostrContent with
    | none => return .nonPublicSkipped
    | some content => return .sign content
  else return .publicationDisabled

end LightningGoats
