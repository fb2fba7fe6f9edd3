import LightningGoats.Ledger.Events
import LightningGoats.Messaging.Templates

/-! # Presentation of durable events

Payments and feedings are announced with a template of the embedded catalog.
Which one is chosen depends on a hash of the event, which may be any index.
-/

namespace LightningGoats

open Outcome

structure OverlayGoat where
  name : String
  imageUrl : String
  deriving DecidableEq, Repr

structure RenderedPresentation where
  nostrContent : Option String
  overlayType : Option String
  overlayMessage : Option String
  overlayGoats : List OverlayGoat
  deriving DecidableEq, Repr

def RenderedPresentation.empty : RenderedPresentation :=
  ⟨none, none, none, []⟩

structure TemplateCatalog where
  satsReceived : List String
  feederTrigger : List String
  interfaceInfo : List String

structure Goat where
  user : String
  name : String
  nostrProfile : String
  deriving DecidableEq, Repr

def goats : List Goat :=
  [ ⟨"dexter", "Dexter",
      "nostr:nprofile1qqsw4zlzyfx43mc88psnlse8sywpfl45kuap9dy05yzke" ++
      "pkvu6ca5wg7qyak5"⟩,
    ⟨"rowan", "Rowan",
      "nostr:nprofile1qqs2w94r0fs29gepzfn5zuaupn969gu3fstj3gq8kvw3c" ++
      "vx9fnxmaugwur22r"⟩,
    ⟨"cosmo", "Cosmo",
      "nostr:nprofile1qqsq6n8u7dzrnhhy7xy78k2ee7e4wxlgrkm5g2rgjl3na" ++
      "pr9q54n4ncvkqcsj"⟩,
    ⟨"newton", "Newton",
      "nostr:nprofile1qqszdsnpyzwhjcqads3hwfywt5jfmy85jvx8yup06yq0k" ++
      "lrh93ldjxc26lmyx"⟩,
    ⟨"nova", "Nova",
      "nostr:nprofile1qqsrzy7clymq5xwcfhh0dfz6zfe7h63k8r0j8yr49mxu6" ++
      "as4yv2084s0vf035"⟩]

def embeddedTemplates : TemplateCatalog where
  satsReceived := [
    "💰 Payment received: {new_amount} sats added for the Lightning Goats. " ++
      "{difference_message} Scientific fact: Goats, such as {goat_name}, have uniquely " ++
      "shaped rectangular pupils, which provide them a wide field of vision, aiding in " ++
      "predator detection.\n\nhttps://lightning-goats.com",
    "⚡ Contribution confirmed: {new_amount} sats received. {difference_message} Fun " ++
      "fact: {goat_name} and other goats are incredibly agile climbers, capable of scaling " ++
      "steep terrain with ease.\n\nhttps://lightning-goats.com",
    "💎 Payment processed: {new_amount} sats contributed to the herd. " ++
      "{difference_message} Did you know? {goat_name} represents the curious and " ++
      "intelligent nature of goats in general.\n\nhttps://lightning-goats.com",
    "🔥 Sats received: {new_amount} added to the feeder balance. {difference_message} " ++
      "Interesting: Goats like {goat_name} have excellent memories and can recognize other " ++
      "goats and humans for years.\n\nhttps://lightning-goats.com",
    "⚡ The herd received {new_amount} sats. {difference_message} Goat trivia: " ++
      "{goat_name} exemplifies how goats use their prehensile tongues to selectively eat " ++
      "the most nutritious plants.\n\nhttps://lightning-goats.com"]
  feederTrigger := [
    "🎉 Feeder activated! {new_amount} sats triggered a feeding. {difference_message} " ++
      "Scientific fact: Goats, such as {goat_name}, have uniquely shaped rectangular " ++
      "pupils, which provide them a wide field of vision, aiding in predator " ++
      "detection.\n\nhttps://lightning-goats.com",
    "⚡ Feeder trigger reached! {new_amount} sats were redeemed for treats. " ++
      "{difference_message} Fun fact: {goat_name} and other goats are incredibly agile " ++
      "climbers, capable of scaling steep terrain with ease.\n\nhttps://lightning-goats.com",
    "🎊 Feeding time! The Lightning Goats just received treats funded by {new_amount} " ++
      "sats. {difference_message} Did you know? {goat_name} represents the curious and " ++
      "intelligent nature of goats in general.\n\nhttps://lightning-goats.com",
    "🚀 Feeder activated with {new_amount} sats! {difference_message} Interesting: Goats " ++
      "like {goat_name} have excellent memories and can recognize other goats and humans " ++
      "for years.\n\nhttps://lightning-goats.com",
    "⚡ Lightning Goats feeding initiated! {new_amount} sats were redeemed for treats. " ++
      "{difference_message} Goat trivia: {goat_name} exemplifies how goats use their " ++
      "prehensile tongues to be selective eaters, often choosing the most nutritious parts " ++
      "of a plant.\n\nhttps://lightning-goats.com"]
  interfaceInfo := [
    "To send the goats treats, use a Lightning Address or the payment control on " ++
      "lightning-goats.com. Once the feeder reaches 100%, the ⚡ Lightning Goats ⚡ get a " ++
      "mixture of timothy hay pellets and goat granola.",
    "Support the herd on Nostr! Zaps and Lightning payments contribute toward triggering " ++
      "the feeder and dispensing treats to the ⚡ Lightning Goats ⚡.",
    "Each goat has a Lightning Address. Payments to herd, Dexter, Rowan, Cosmo, Newton, " ++
      "or Nova all contribute to the same feeder balance.",
    "Sats sent to the ⚡ Lightning Goats ⚡ feeder not only send the goats treats; they " ++
      "also help support hay, development, and other project operating costs.",
    "By participating in the ⚡ Lightning Goats ⚡ experience, you are helping demonstrate " ++
      "a real-world use of Bitcoin Lightning microtransactions."]

inductive PresentationError
  | zeroThreshold
  | emptyCategory (name : String)
  | largeCategory (name : String)
  | templateLength (name : String)
  | missingUnsigned (field : String)
  | emptyTemplates (purpose : String)
  | template (error : TemplateError)
  | missingMessage
  | weatherLength
  deriving DecidableEq, Repr

def PresentationError.message : PresentationError → String
  | zeroThreshold => "feeder threshold must be greater than zero"
  | emptyCategory name => "Phase 1 template category " ++ name ++ " is empty"
  | largeCategory name => "Phase 1 template category " ++ name ++ " is unexpectedly large"
  | templateLength name =>
      "Phase 1 template category " ++ name ++ " contains an invalid template length"
  | missingUnsigned field => "durable event is missing unsigned integer field " ++ field
  | emptyTemplates purpose => "template category " ++ purpose ++ " is empty"
  | template error => error.message
  | missingMessage => "weather_status event is missing string field message"
  | weatherLength => "weather_status message must contain 1 to 2000 characters"

def validateTemplates (name : String) (templates : List String) :
    Except PresentationError Unit := do
  ensure (templates ≠ []) (.emptyCategory name)
  ensure (templates.length ≤ 1000) (.largeCategory name)
  templates.forM fun template => do
    ensure (Text.trim template ≠ "" ∧ template.utf8ByteSize ≤ 8192) (.templateLength name)
    (validateTemplateSyntax template).mapError .template

def validateCatalog (catalog : TemplateCatalog) : Except PresentationError Unit := do
  validateTemplates "sats_received" catalog.satsReceived
  validateTemplates "feeder_trigger" catalog.feederTrigger
  validateTemplates "interface_info" catalog.interfaceInfo

/-! ## Choices -/

/-- A choice among the first `len` numbers, for an event and a purpose. -/
structure StableIndex where
  index : DurableEvent → String → Nat → Nat
  inRange : ∀ event purpose len, 0 < len → index event purpose len < len

def selectTemplate (choice : StableIndex) (templates : List String) (event : DurableEvent)
    (purpose : String) : Except PresentationError String :=
  if nonempty : templates = [] then throw (.emptyTemplates purpose)
  else return templates.get ⟨choice.index event purpose templates.length,
    choice.inRange _ _ _ (List.length_pos_iff.mpr nonempty)⟩

def goatForEvent (choice : StableIndex) (event : DurableEvent) (addressUser : Option String) :
    Goat :=
  match addressUser.bind fun user => goats.find? fun goat => goat.user = user with
  | some goat => goat
  | none => goats.get ⟨choice.index event "goat" goats.length, choice.inRange _ _ _ (by decide)⟩

def overlayGoat (goat : Goat) : OverlayGoat :=
  ⟨goat.name, "images/" ++ goat.user ++ ".png"⟩

/-! ## Values -/

def commonValues (amount : Nat) (differenceMessage goatName : String) : List (String × String) :=
  [("new_amount", toString amount), ("difference_message", differenceMessage),
    ("goat_name", goatName)]

def requiredU64 (payload : List (String × JsonValue)) (field : String) :
    Except PresentationError Nat :=
  match payload.lookup field with
  | some (.number value) =>
      if 0 ≤ value ∧ value < 2 ^ 64 then return value.toNat else throw (.missingUnsigned field)
  | _ => throw (.missingUnsigned field)

def remainingSats (credit threshold : Nat) : Nat :=
  if credit < threshold then threshold - credit else threshold - credit % threshold

def differenceMessage (credit threshold : Nat) : String :=
  if credit < threshold then
    toString (threshold - credit) ++ " sats until feeder activation."
  else if credit % threshold = 0 then
    "Feeder ready! " ++ toString (credit / threshold) ++ " feeding(s) are funded."
  else
    "Feeder ready! " ++ toString (credit / threshold) ++ " feeding(s) are funded, with " ++
      toString (credit % threshold) ++ " sats already toward the following feeding."

/-! ## Rendering -/

/-- The address a payment went to, which is that of the herd by default. -/
def paymentUser (payload : List (String × JsonValue)) : String :=
  match payload.lookup "address_user" with
  | some (.string user) => user
  | _ => "herd"

/-- A template filled for Nostr and for the overlay, which name the goat differently. -/
def renderTemplate (template overlayType : String) (nostrValues overlayValues :
    List (String × String)) (goat : Goat) : Except PresentationError RenderedPresentation := do
  let nostrContent ← (safeSubstitute template nostrValues).mapError .template
  let overlayMessage ← (safeSubstitute template overlayValues).mapError .template
  return ⟨some nostrContent, some overlayType, some overlayMessage, [overlayGoat goat]⟩

def renderPayment (catalog : TemplateCatalog) (choice : StableIndex) (event : DurableEvent)
    (thresholdSats : Nat) : Except PresentationError RenderedPresentation := do
  let amount ← requiredU64 event.event.payload "amount_sats"
  let credit ← requiredU64 event.event.payload "feed_credit_sats"
  let goat := goatForEvent choice event (some (paymentUser event.event.payload))
  let difference := differenceMessage credit thresholdSats
  let template ← selectTemplate choice catalog.satsReceived event "sats_received"
  let remaining := ("difference", toString (remainingSats credit thresholdSats))
  renderTemplate template "sats_received"
    (remaining :: commonValues amount difference goat.nostrProfile)
    (remaining :: commonValues amount difference goat.name) goat

def renderFeeder (catalog : TemplateCatalog) (choice : StableIndex) (event : DurableEvent)
    (thresholdSats : Nat) : Except PresentationError RenderedPresentation := do
  let amount ← requiredU64 event.event.payload "threshold_sats"
  let credit ← requiredU64 event.event.payload "feed_credit_sats"
  let goat := goatForEvent choice event none
  let difference := differenceMessage credit thresholdSats
  let template ← selectTemplate choice catalog.feederTrigger event "feeder_trigger"
  renderTemplate template "feeder_trigger" (commonValues amount difference goat.nostrProfile)
    (commonValues amount difference goat.name) goat

def renderInterfaceInfo (catalog : TemplateCatalog) (choice : StableIndex)
    (event : DurableEvent) : Except PresentationError RenderedPresentation := do
  let template ← selectTemplate choice catalog.interfaceInfo event "interface_info"
  let overlayMessage ← (safeSubstitute template []).mapError .template
  return ⟨none, some "interface_info", some overlayMessage, []⟩

def renderWeather (event : DurableEvent) : Except PresentationError RenderedPresentation :=
  match event.event.payload.lookup "message" with
  | some (.string message) =>
      if Text.trim message = "" ∨ 2000 < message.utf8ByteSize then throw .weatherLength
      else return ⟨none, some "weather_status", some message, []⟩
  | _ => throw .missingMessage

def render (catalog : TemplateCatalog) (choice : StableIndex) (event : DurableEvent)
    (thresholdSats : Nat) : Except PresentationError RenderedPresentation := do
  ensure (thresholdSats ≠ 0) .zeroThreshold
  match event.event.eventType with
  | "payment_received" => renderPayment catalog choice event thresholdSats
  | "feeder_confirmed" => renderFeeder catalog choice event thresholdSats
  | "interface_info" => renderInterfaceInfo catalog choice event
  | "weather_status" => renderWeather event
  | _ => return .empty

end LightningGoats
