import LightningGoats.Ledger.Announcements
import LightningGoats.Messaging.Processor

/-! # Every event can be rendered

The events that the ledger appends have the fields that the renderer asks for,
and the embedded templates ask for no value that it does not give. Nothing the
ledger appends can stop the messages behind it.
-/

namespace LightningGoats

open Outcome Relational Template

/-! ## The embedded templates -/

def messageNames : List String :=
  ["new_amount", "difference_message", "goat_name"]

theorem messageNames_spelled : messageNames.map String.toList =
    [['n', 'e', 'w', '_', 'a', 'm', 'o', 'u', 'n', 't'],
      ['d', 'i', 'f', 'f', 'e', 'r', 'e', 'n', 'c', 'e', '_', 'm', 'e', 's', 's', 'a', 'g', 'e'],
      ['g', 'o', 'a', 't', '_', 'n', 'a', 'm', 'e']] := by
  simp only [messageNames, List.map_cons, List.map_nil]
  repeat rw [String.toList_ofList]

/-- A text that passes the checks of the catalog, with names that are spelled
like this at most. -/
def isUsable (spellings : List (List Char)) (text : List Char) : Bool :=
  isTemplateFor spellings none text &&
    text.any (fun character => !Text.isWhitespace character) && (text.drop 2048).isEmpty

theorem isUsable_parts {allowed : List String} {text : String}
    (usable : isUsable (allowed.map String.toList) text.toList = true) :
    (∃ pieces, IsTemplate text pieces ∧ ∀ name ∈ names pieces, name ∈ allowed) ∧
      Text.trim text ≠ "" ∧ text.utf8ByteSize ≤ 8192 := by
  rw [isUsable, Bool.and_eq_true, Bool.and_eq_true, List.any_eq_true, List.isEmpty_iff,
    List.drop_eq_nil_iff] at usable
  rcases usable with ⟨⟨isTemplate, character, member, printed⟩, short⟩
  exact ⟨isTemplateFor_sound isTemplate,
    Text.trim_ne_empty ⟨character, member, by simpa using printed⟩,
    (Text.utf8ByteSize_le text).trans (Nat.mul_le_mul_left 4 short)⟩

theorem embedded_usable :
    (∀ template ∈ embeddedTemplates.satsReceived,
      isUsable (messageNames.map String.toList) template.toList = true) ∧
    (∀ template ∈ embeddedTemplates.feederTrigger,
      isUsable (messageNames.map String.toList) template.toList = true) ∧
    ∀ template ∈ embeddedTemplates.interfaceInfo,
      isUsable (([] : List String).map String.toList) template.toList = true := by
  rw [messageNames_spelled]
  simp only [embeddedTemplates, List.forall_mem_cons, String.toList_append]
  refine ⟨⟨?_, ?_, ?_, ?_, ?_, by simp⟩, ⟨?_, ?_, ?_, ?_, ?_, by simp⟩, ?_, ?_, ?_, ?_, ?_,
    by simp⟩
  all_goals
    repeat rw [String.toList_ofList]
    decide +kernel

theorem validateTemplates_of {name : String} {allowed templates : List String}
    (nonempty : templates ≠ []) (few : templates.length ≤ 1000)
    (usable : ∀ template ∈ templates,
      isUsable (allowed.map String.toList) template.toList = true) :
    validateTemplates name templates = .ok () := by
  rw [validateTemplates, ensure_of nonempty, ok_bind, ensure_of few, ok_bind]
  clear nonempty few
  induction templates with
  | nil => rfl
  | cons template templates induction =>
      rcases List.forall_mem_cons.mp usable with ⟨first, others⟩
      rcases isUsable_parts first with ⟨⟨pieces, isTemplate, _⟩, printed, short⟩
      rw [List.forM, ensure_of ⟨printed, short⟩, ok_bind, template_accepted isTemplate]
      exact induction others

theorem embedded_nonempty : embeddedTemplates.satsReceived ≠ [] ∧
    embeddedTemplates.feederTrigger ≠ [] ∧ embeddedTemplates.interfaceInfo ≠ [] :=
  ⟨List.cons_ne_nil _ _, List.cons_ne_nil _ _, List.cons_ne_nil _ _⟩

theorem embedded_valid : validateCatalog embeddedTemplates = .ok () := by
  rcases embedded_usable with ⟨received, trigger, info⟩
  rcases embedded_nonempty with ⟨someReceived, someTrigger, someInfo⟩
  rw [validateCatalog, validateTemplates_of someReceived (by decide) received, ok_bind,
    validateTemplates_of someTrigger (by decide) trigger, ok_bind,
    validateTemplates_of someInfo (by decide) info]

/-! ## Filled templates -/

/-- The template with its names replaced by their values and nothing else. -/
def FilledWith (template : String) (values : List (String × String)) (text : String) : Prop :=
  ∃ pieces, IsTemplate template pieces ∧
    (∀ name ∈ names pieces, ∃ value, values.lookup name = some value) ∧
    text = String.ofList (filled (fun name => (values.lookup name).getD "") pieces)

theorem safeSubstitute_fills {allowed : List String} {template : String}
    {values : List (String × String)}
    (usable : isUsable (allowed.map String.toList) template.toList = true)
    (covers : ∀ name ∈ allowed, ∃ value, values.lookup name = some value) :
    ∃ text, safeSubstitute template values = .ok text ∧ FilledWith template values text := by
  rcases (isUsable_parts usable).1 with ⟨pieces, isTemplate, within⟩
  have available : ∀ name ∈ names pieces, ∃ value, values.lookup name = some value :=
    fun name member => covers name (within name member)
  exact ⟨_, template_fills isTemplate available, pieces, isTemplate, available, rfl⟩

theorem commonValues_cover (amount : Nat) (differenceMessage goatName : String)
    {others : List (String × String)} (apart : ∀ value ∈ others, value.1 ∉ messageNames) :
    ∀ name ∈ messageNames, ∃ value,
      (others ++ commonValues amount differenceMessage goatName).lookup name = some value := by
  intro name member
  have absent : others.lookup name = none := by
    rw [List.lookup_eq_none_iff]
    intro value inOthers
    simpa using fun same : name = value.1 => apart value inOthers (same ▸ member)
  rw [List.lookup_append, absent, Option.none_or]
  simp only [messageNames, List.mem_cons, List.not_mem_nil, or_false] at member
  rcases member with rfl | rfl | rfl
  · exact ⟨_, rfl⟩
  · exact ⟨_, rfl⟩
  · exact ⟨_, rfl⟩

/-! ## Payloads -/

def Carries (payload : List (String × JsonValue)) (field : String) (value : Nat) : Prop :=
  payload.lookup field = some (.number value) ∧ value < 2 ^ 64

theorem requiredU64_of {payload : List (String × JsonValue)} {field : String} {value : Nat}
    (carries : Carries payload field value) : requiredU64 payload field = .ok value := by
  have bounded : (value : Int) < 2 ^ 64 := by exact_mod_cast carries.2
  simp only [requiredU64, carries.1, if_pos (And.intro (Int.natCast_nonneg value) bounded),
    Int.toNat_natCast]
  rfl

structure Renderable (event : Event) : Prop where
  payment : event.eventType = "payment_received" →
    ∃ amount credit, Carries event.payload "amount_sats" amount ∧
      Carries event.payload "feed_credit_sats" credit
  feeding : event.eventType = "feeder_confirmed" →
    ∃ threshold credit, Carries event.payload "threshold_sats" threshold ∧
      Carries event.payload "feed_credit_sats" credit

/-! ## Rendered events -/

section Rendered

variable {choice : StableIndex} {event : DurableEvent} {thresholdSats : Nat}

theorem selectTemplate_of {templates : List String} {purpose : String}
    (nonempty : templates ≠ []) :
    ∃ template ∈ templates, selectTemplate choice templates event purpose = .ok template ∧
      templates[choice.index event purpose templates.length]? = some template := by
  have inRange := choice.inRange event purpose _ (List.length_pos_iff.mpr nonempty)
  refine ⟨_, List.get_mem _ ⟨_, inRange⟩, ?_, List.getElem?_eq_getElem inRange⟩
  rw [selectTemplate, dif_neg nonempty]
  rfl

def FilledFrom (templates : List String) (choice : StableIndex) (event : DurableEvent)
    (purpose : String) (values : List (String × String)) (text : String) : Prop :=
  ∃ template, templates[choice.index event purpose templates.length]? = some template ∧
    FilledWith template values text

inductive Presents (choice : StableIndex) (event : DurableEvent) (thresholdSats : Nat) :
    RenderedPresentation → Prop
  | payment {amount credit : Nat} {nostr overlay : String} {goat : Goat}
      (isPayment : event.event.eventType = "payment_received")
      (amounts : Carries event.event.payload "amount_sats" amount)
      (credits : Carries event.event.payload "feed_credit_sats" credit)
      (isGoat : goat = goatForEvent choice event (some (paymentUser event.event.payload)))
      (nostrFilled : FilledFrom embeddedTemplates.satsReceived choice event "sats_received"
        (("difference", toString (remainingSats credit thresholdSats)) ::
          commonValues amount (differenceMessage credit thresholdSats) goat.nostrProfile) nostr)
      (overlayFilled : FilledFrom embeddedTemplates.satsReceived choice event "sats_received"
        (("difference", toString (remainingSats credit thresholdSats)) ::
          commonValues amount (differenceMessage credit thresholdSats) goat.name) overlay) :
      Presents choice event thresholdSats
        ⟨some nostr, some "sats_received", some overlay, [overlayGoat goat]⟩
  | feeding {amount credit : Nat} {nostr overlay : String} {goat : Goat}
      (isFeeding : event.event.eventType = "feeder_confirmed")
      (amounts : Carries event.event.payload "threshold_sats" amount)
      (credits : Carries event.event.payload "feed_credit_sats" credit)
      (isGoat : goat = goatForEvent choice event none)
      (nostrFilled : FilledFrom embeddedTemplates.feederTrigger choice event "feeder_trigger"
        (commonValues amount (differenceMessage credit thresholdSats) goat.nostrProfile) nostr)
      (overlayFilled : FilledFrom embeddedTemplates.feederTrigger choice event "feeder_trigger"
        (commonValues amount (differenceMessage credit thresholdSats) goat.name) overlay) :
      Presents choice event thresholdSats
        ⟨some nostr, some "feeder_trigger", some overlay, [overlayGoat goat]⟩
  | interfaceInfo {overlay : String} (isInfo : event.event.eventType = "interface_info")
      (overlayFilled : FilledFrom embeddedTemplates.interfaceInfo choice event "interface_info"
        [] overlay) :
      Presents choice event thresholdSats ⟨none, some "interface_info", some overlay, []⟩
  | silent (other : event.event.eventType ∉
      ["payment_received", "feeder_confirmed", "interface_info", "weather_status"]) :
      Presents choice event thresholdSats .empty

theorem announcement_fills {templates : List String} {purpose : String} {goat : Goat}
    {nostrValues overlayValues : List (String × String)} (nonempty : templates ≠ [])
    (usable : ∀ template ∈ templates,
      isUsable (messageNames.map String.toList) template.toList = true)
    (nostrCovers : ∀ name ∈ messageNames, ∃ value, nostrValues.lookup name = some value)
    (overlayCovers : ∀ name ∈ messageNames, ∃ value, overlayValues.lookup name = some value) :
    ∃ nostr overlay, (do
        let template ← selectTemplate choice templates event purpose
        renderTemplate template purpose nostrValues overlayValues goat) =
          .ok ⟨some nostr, some purpose, some overlay, [overlayGoat goat]⟩ ∧
      FilledFrom templates choice event purpose nostrValues nostr ∧
      FilledFrom templates choice event purpose overlayValues overlay := by
  rcases @selectTemplate_of choice event templates purpose nonempty with
    ⟨template, member, selected, chosen⟩
  rcases safeSubstitute_fills (usable template member) nostrCovers with
    ⟨nostr, nostrFills, nostrFilled⟩
  rcases safeSubstitute_fills (usable template member) overlayCovers with
    ⟨overlay, overlayFills, overlayFilled⟩
  refine ⟨nostr, overlay, ?_, ⟨template, chosen, nostrFilled⟩, template, chosen, overlayFilled⟩
  rw [selected, ok_bind, renderTemplate, nostrFills, overlayFills]
  rfl

theorem renderPayment_presents {amount credit : Nat}
    (isPayment : event.event.eventType = "payment_received")
    (amounts : Carries event.event.payload "amount_sats" amount)
    (credits : Carries event.event.payload "feed_credit_sats" credit) :
    ∃ rendered, renderPayment embeddedTemplates choice event thresholdSats = .ok rendered ∧
      Presents choice event thresholdSats rendered := by
  rw [renderPayment, requiredU64_of amounts, ok_bind, requiredU64_of credits, ok_bind]
  let goat := goatForEvent choice event (some (paymentUser event.event.payload))
  have apart : ∀ value ∈ [("difference", toString (remainingSats credit thresholdSats))],
      value.1 ∉ messageNames := by
    simp [messageNames]
  rcases @announcement_fills choice event embeddedTemplates.satsReceived "sats_received" goat _ _
    embedded_nonempty.1 embedded_usable.1
    (commonValues_cover amount (differenceMessage credit thresholdSats) goat.nostrProfile apart)
    (commonValues_cover amount (differenceMessage credit thresholdSats) goat.name apart) with
    ⟨nostr, overlay, renders, nostrFilled, overlayFilled⟩
  exact ⟨_, renders, .payment isPayment amounts credits rfl nostrFilled overlayFilled⟩

theorem renderFeeder_presents {amount credit : Nat}
    (isFeeding : event.event.eventType = "feeder_confirmed")
    (amounts : Carries event.event.payload "threshold_sats" amount)
    (credits : Carries event.event.payload "feed_credit_sats" credit) :
    ∃ rendered, renderFeeder embeddedTemplates choice event thresholdSats = .ok rendered ∧
      Presents choice event thresholdSats rendered := by
  rw [renderFeeder, requiredU64_of amounts, ok_bind, requiredU64_of credits, ok_bind]
  let goat := goatForEvent choice event none
  have apart : ∀ value ∈ ([] : List (String × String)), value.1 ∉ messageNames := by simp
  rcases @announcement_fills choice event embeddedTemplates.feederTrigger "feeder_trigger" goat
    _ _ embedded_nonempty.2.1 embedded_usable.2.1
    (commonValues_cover amount (differenceMessage credit thresholdSats) goat.nostrProfile apart)
    (commonValues_cover amount (differenceMessage credit thresholdSats) goat.name apart) with
    ⟨nostr, overlay, renders, nostrFilled, overlayFilled⟩
  exact ⟨_, renders, .feeding isFeeding amounts credits rfl nostrFilled overlayFilled⟩

theorem renderInterfaceInfo_presents (isInfo : event.event.eventType = "interface_info") :
    ∃ rendered, renderInterfaceInfo embeddedTemplates choice event = .ok rendered ∧
      Presents choice event thresholdSats rendered := by
  rcases @selectTemplate_of choice event embeddedTemplates.interfaceInfo "interface_info"
    embedded_nonempty.2.2 with ⟨template, member, selected, chosen⟩
  rcases @safeSubstitute_fills [] template [] (embedded_usable.2.2 template member) (by simp)
    with ⟨overlay, fills, overlayFilled⟩
  refine ⟨_, ?_, .interfaceInfo isInfo ⟨template, chosen, overlayFilled⟩⟩
  rw [renderInterfaceInfo, selected, ok_bind, fills]
  rfl

/-- An event with the fields of its type is rendered, unless it is about the weather. -/
theorem render_presents (positive : 0 < thresholdSats) (renderable : Renderable event.event)
    (notWeather : event.event.eventType ≠ "weather_status") :
    ∃ rendered, render embeddedTemplates choice event thresholdSats = .ok rendered ∧
      Presents choice event thresholdSats rendered := by
  rw [render, ensure_of positive.ne', ok_bind]
  split
  · rename_i isPayment
    rcases renderable.payment isPayment with ⟨amount, credit, amounts, credits⟩
    exact renderPayment_presents isPayment amounts credits
  · rename_i isFeeding
    rcases renderable.feeding isFeeding with ⟨amount, credit, amounts, credits⟩
    exact renderFeeder_presents isFeeding amounts credits
  · rename_i isInfo
    exact renderInterfaceInfo_presents isInfo
  · rename_i isWeather
    exact absurd isWeather notWeather
  · rename_i notPayment notFeeding notInfo notWeather
    refine ⟨_, rfl, .silent ?_⟩
    simpa using ⟨notPayment, notFeeding, notInfo, notWeather⟩

end Rendered

/-! ## What the ledger appends -/

inductive AppendedByLedger : Event → Prop
  | payment (payment : SettledPayment) {amount credit : Nat} (amountFits : amount < 2 ^ 64)
      (creditFits : credit < 2 ^ 64) :
      AppendedByLedger ⟨"payment_received", payment.announcement amount credit⟩
  | receipt (valuation : Valuation) {amount credit : Nat} (amountFits : amount < 2 ^ 64)
      (creditFits : credit < 2 ^ 64) : AppendedByLedger (grantEvent valuation amount credit)
  | confirmed (id : Uuid) {threshold credit : Nat} (thresholdFits : threshold < 2 ^ 64)
      (creditFits : credit < 2 ^ 64) :
      AppendedByLedger ⟨"feeder_confirmed", [("feed_attempt_id", .string id.toText),
        ("threshold_sats", .number threshold), ("feed_credit_sats", .number credit)]⟩
  | reconciledNotFed (id : Uuid) (credit : Nat) :
      AppendedByLedger ⟨"feed_reconciled_not_fed", [("feed_attempt_id", .string id.toText),
        ("feed_credit_sats", .number credit)]⟩
  | notDispatched (id : Uuid) (retryAfterSeconds : Nat) :
      AppendedByLedger ⟨"feeder_not_dispatched", [("feed_attempt_id", .string id.toText),
        ("retry_after_seconds", .number retryAfterSeconds)]⟩
  | interrupted : AppendedByLedger ⟨"processing_error", [("message", .string interruptedMessage)]⟩
  | unconfirmed (id : Uuid) :
      AppendedByLedger ⟨"processing_error", [("feed_attempt_id", .string id.toText),
        ("message", .string unconfirmedMessage)]⟩
  | interfaceInfo : AppendedByLedger
      ⟨InformationalEvent.interfaceInfo.eventType, InformationalEvent.interfaceInfo.payload⟩

theorem Renderable.of_type {event : Event} (notPayment : event.eventType ≠ "payment_received")
    (notFeeding : event.eventType ≠ "feeder_confirmed") : Renderable event :=
  ⟨fun same => absurd same notPayment, fun same => absurd same notFeeding⟩

theorem Renderable.of_payment {payload : List (String × JsonValue)} {amount credit : Nat}
    (amounts : Carries payload "amount_sats" amount)
    (credits : Carries payload "feed_credit_sats" credit) :
    Renderable ⟨"payment_received", payload⟩ :=
  ⟨fun _ => ⟨amount, credit, amounts, credits⟩, fun same => absurd same (by simp)⟩

theorem Renderable.of_feeding {payload : List (String × JsonValue)} {threshold credit : Nat}
    (thresholds : Carries payload "threshold_sats" threshold)
    (credits : Carries payload "feed_credit_sats" credit) :
    Renderable ⟨"feeder_confirmed", payload⟩ :=
  ⟨fun same => absurd same (by simp), fun _ => ⟨threshold, credit, thresholds, credits⟩⟩

theorem AppendedByLedger.renderable {event : Event} (appended : AppendedByLedger event) :
    Renderable event ∧ event.eventType ≠ "weather_status" := by
  cases appended with
  | payment payment amountFits creditFits =>
      exact ⟨.of_payment ⟨rfl, amountFits⟩ ⟨rfl, creditFits⟩, by simp⟩
  | receipt valuation amountFits creditFits =>
      exact ⟨.of_payment ⟨rfl, amountFits⟩ ⟨rfl, creditFits⟩, by simp [grantEvent]⟩
  | confirmed id thresholdFits creditFits =>
      exact ⟨.of_feeding ⟨rfl, thresholdFits⟩ ⟨rfl, creditFits⟩, by simp⟩
  | interfaceInfo =>
      exact ⟨.of_type (by simp [InformationalEvent.eventType])
        (by simp [InformationalEvent.eventType]), by simp [InformationalEvent.eventType]⟩
  | reconciledNotFed | notDispatched | interrupted | unconfirmed =>
      exact ⟨.of_type (by simp) (by simp), by simp⟩

/-! ## Runs -/

theorem feedCredit_lt {db : Db} {credit : Nat} (read : feedCreditInTransaction db = .ok credit) :
    credit < 2 ^ 64 := by
  have bounded := CheckedSum.sum_le (by decide) (sqlSum_eq_ok.mp (feedCredit_eq_ok.mp read))
  unfold maxI64 maxAccountingUnits at bounded
  omega

/-- The events of a log can be rendered, unless they are about the weather. -/
def RenderableLog (db : Db) : Prop :=
  ∀ entry ∈ db.eventLog.entries, Renderable entry.2

namespace RenderableLog

variable {scope : Scope} {before after : Db}

theorem of_insert (renderable : RenderableLog before) {event : Event}
    (isRenderable : Renderable event)
    (appended : after.eventLog = before.eventLog.insert event (noClash_fresh _ _)) :
    RenderableLog after := by
  intro entry member
  rw [appended] at member
  rcases (Table.mem_entries_insert (noClash_fresh _ _)).mp member with old | rfl
  · exact renderable entry old
  · exact isRenderable

theorem of_quiet (renderable : RenderableLog before) (quiet : Quiet scope before after) :
    RenderableLog after := by
  rcases quiet.silent with ⟨_, unchanged | ⟨event, silent, appended⟩⟩
  · intro entry member
    exact renderable entry (unchanged ▸ member)
  · refine renderable.of_insert (.of_type ?_ ?_) appended
    all_goals
      intro isType
      have carries := silent.2
      rw [Event.carriesBalance, isType] at carries
      cases carries

theorem of_booking (renderable : RenderableLog before) (booking : Booking scope before after) :
    RenderableLog after := by
  cases booking with
  | settles settles =>
      cases settles with
      | intro creditable _ _ read =>
        refine renderable.of_insert (.of_payment ⟨rfl, ?_⟩ ⟨rfl, feedCredit_lt read⟩) rfl
        exact Nat.lt_of_le_of_lt creditable.sats_le (by decide)
  | grants grants =>
      cases grants with
      | intro _ _ read room =>
        have fits : ∀ amount, amount ≤ maxAccountingUnits → amount < 2 ^ 64 :=
          fun amount bounded => Nat.lt_of_le_of_lt bounded (by decide)
        exact renderable.of_insert (.of_payment ⟨rfl, fits _ (by omega)⟩ ⟨rfl, fits _ room⟩) rfl
  | debits debits =>
      cases debits with
      | intro _ _ _ nonneg covers covered _ read =>
        rcases Int.eq_ofNat_of_zero_le nonneg with ⟨threshold, isThreshold⟩
        have fits := feedCredit_lt covers
        have isNumber : some (JsonValue.number _) = some (JsonValue.number threshold) :=
          congrArg (fun value => some (JsonValue.number value)) isThreshold
        refine renderable.of_insert ?_ rfl
        exact .of_feeding ⟨isNumber, by omega⟩ ⟨rfl, feedCredit_lt read⟩
  | announces announces =>
      cases announces with
      | intro read announced reconciled =>
        exact renderable.of_insert (.of_type (by simp [reconciled]) (by simp [reconciled])) rfl

theorem of_run [SerdeJson] {labels : List LedgerLabel}
    (run : LedgerRun Db.fresh labels after) : RenderableLog after :=
  ledgerRun_invariant of_quiet of_booking run (by simp [RenderableLog, Db.fresh])

end RenderableLog

/-- A weather report is shown as it is, if it is neither blank nor long. -/
def ShowsWeather (event : Event) : Prop :=
  ∃ message, event.payload.lookup "message" = some (.string message) ∧
    Text.trim message ≠ "" ∧ message.utf8ByteSize ≤ 2000

theorem renderWeather_of {event : DurableEvent} (shows : ShowsWeather event.event) :
    ∃ rendered, renderWeather event = .ok rendered := by
  rcases shows with ⟨message, isMessage, printed, short⟩
  refine ⟨⟨none, some "weather_status", some message, []⟩, ?_⟩
  have fine : ¬ (Text.trim message = "" ∨ 2000 < message.utf8ByteSize) :=
    not_or.mpr ⟨printed, Nat.not_lt.mpr short⟩
  simp only [renderWeather, isMessage, if_neg fine]
  rfl

theorem prepareMessage_of {choice : StableIndex} {event : DurableEvent} {thresholdSats : Nat}
    {rendered : RenderedPresentation}
    (renders : render embeddedTemplates choice event thresholdSats = .ok rendered)
    (mode : RuntimeMode) :
    ∃ preparation, prepareMessage embeddedTemplates choice thresholdSats mode event =
      .ok preparation := by
  unfold prepareMessage
  split
  · rw [renders, ok_bind]
    split
    · exact ⟨_, rfl⟩
    · exact ⟨_, rfl⟩
  · exact ⟨_, rfl⟩

/-- Everything that the ledger appends is rendered from its chosen template, so no
event of a reachable log stops the processor. -/
theorem ledger_events_render [SerdeJson] (choice : StableIndex) {thresholdSats : Nat}
    (positive : 0 < thresholdSats) :
    validateCatalog embeddedTemplates = .ok () ∧
    (∀ seq event, AppendedByLedger event →
      ∃ rendered, render embeddedTemplates choice ⟨seq, event⟩ thresholdSats = .ok rendered ∧
        Presents choice ⟨seq, event⟩ thresholdSats rendered) ∧
    ∀ labels db, LedgerRun Db.fresh labels db → ∀ entry ∈ db.eventLog.entries,
      (entry.2.eventType ≠ "weather_status" → ∃ rendered,
        render embeddedTemplates choice ⟨entry.1, entry.2⟩ thresholdSats = .ok rendered ∧
          Presents choice ⟨entry.1, entry.2⟩ thresholdSats rendered) ∧
      ((entry.2.eventType = "weather_status" → ShowsWeather entry.2) → ∀ mode,
        ∃ preparation, prepareMessage embeddedTemplates choice thresholdSats mode
          ⟨entry.1, entry.2⟩ = .ok preparation) := by
  refine ⟨embedded_valid, fun seq event appended => ?_, fun labels db run entry member => ?_⟩
  · exact @render_presents choice ⟨seq, event⟩ thresholdSats positive appended.renderable.1
      appended.renderable.2
  · have renderable := RenderableLog.of_run run entry member
    have presents := @render_presents choice ⟨entry.1, entry.2⟩ thresholdSats positive renderable
    refine ⟨presents, fun weather mode => ?_⟩
    by_cases isWeather : entry.2.eventType = "weather_status"
    · rcases @renderWeather_of ⟨entry.1, entry.2⟩ (weather isWeather) with ⟨rendered, renders⟩
      refine @prepareMessage_of choice _ thresholdSats rendered ?_ mode
      rw [render, ensure_of positive.ne', ok_bind]
      simp only [isWeather, renders]
    · rcases presents isWeather with ⟨rendered, renders, _⟩
      exact prepareMessage_of renders mode

/-- An index that depends on the sequence number only. -/
def exampleIndex : StableIndex where
  index event _ len := event.seq % len
  inRange _ _ _ positive := Nat.mod_lt _ positive

/-- A feeding that leaves 250 sats, announced at a threshold of 1000. -/
theorem ledger_events_render_example :
    ∃ rendered, render embeddedTemplates exampleIndex ⟨7, ⟨"feeder_confirmed",
      [("feed_attempt_id", .string (Uuid.mk 5).toText), ("threshold_sats", .number 1000),
        ("feed_credit_sats", .number 250)]⟩⟩ 1000 = .ok rendered := by
  have appended := AppendedByLedger.confirmed ⟨5⟩ (show 1000 < 2 ^ 64 by decide)
    (show 250 < 2 ^ 64 by decide)
  rcases (@ledger_events_render exampleJson exampleIndex 1000 (by decide)).2.1 7 _ appended with
    ⟨rendered, renders, _⟩
  exact ⟨rendered, renders⟩

end LightningGoats
