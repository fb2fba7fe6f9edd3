import LightningGoats.Strike.Recovery

/-! # Issued invoices

Strike creates a receive request, and what it answers is checked against what was
asked for before it is recorded. The checks at creation and at reconciliation
agree: a Lightning receive that pays the issued invoice is credited.
-/

namespace LightningGoats

open Outcome Relational

/-! ## Creating a request -/

structure CreatedStrikeReceiveRequest where
  receiveRequestId : Uuid
  invoice : String
  paymentHash : String
  descriptionHash : String
  createdProvider : Option String
  deriving DecidableEq, Repr

structure CreateBolt11Request where
  amount : ProviderAmount
  descriptionHash : String
  expiryInSeconds : Nat
  deriving DecidableEq, Repr

structure CreateReceiveRequestBody where
  bolt11 : CreateBolt11Request
  targetCurrency : String
  deriving DecidableEq, Repr

def createBody (amountMsat : UInt64) (descriptionHash : String) (expirySeconds : Nat) :
    CreateReceiveRequestBody where
  bolt11 := ⟨⟨msatToBtcDecimal amountMsat, "BTC"⟩, toAsciiLowercase descriptionHash, expirySeconds⟩
  targetCurrency := "BTC"

def nanosPerSecond : Nat := 1000000000

def maxDuration : Nat := (2 ^ 64 - 1) * nanosPerSecond + 999999999

def verifyExpiryAt (invoice : Bolt11Invoice) (expectedSeconds now : Nat) :
    Except StrikeError Unit := do
  ensure (expectedSeconds ≠ 0 ∧ invoice.expiryTime = expectedSeconds * nanosPerSecond)
    .invoiceExpiry
  ensure (invoice.durationSinceEpoch ≤ min (now + 30 * nanosPerSecond) maxDuration)
    .invoiceFuture
  ensure (∃ expires ∈ invoice.expiresAt, now < expires) .invoiceExpired

def verifyIssuanceExpiry (invoice : Bolt11Invoice) (expectedSeconds : Nat) (now : Option Nat) :
    Except StrikeError Unit := do
  let now ← require now .clock
  verifyExpiryAt invoice expectedSeconds now

def createBolt11ReceiveRequest [Bolt11] (amountMsat : UInt64) (descriptionHash : String)
    (expirySeconds : Nat)
    (send : CreateReceiveRequestBody → Except ProviderFailure ReceiveRequestResponse)
    (now : Option Nat) : Except StrikeError CreatedStrikeReceiveRequest := do
  ensure (amountMsat ≠ 0) .createAmount
  checkHex32 descriptionHash "Strike descriptionHash"
  ensure (expirySeconds ≠ 0) .createExpiry
  let response ← (send (createBody amountMsat descriptionHash expirySeconds)).mapError
    (.provider "create receive request")
  let invoice ← validateReceiveRequestResponse response amountMsat.toNat descriptionHash
  verifyIssuanceExpiry invoice expirySeconds now
  let bolt11 ← require response.bolt11 .noBolt11
  return {
    receiveRequestId := response.receiveRequestId
    invoice := bolt11.invoice
    paymentHash := toAsciiLowercase bolt11.paymentHash
    descriptionHash := bolt11.descriptionHash.getD (toAsciiLowercase descriptionHash)
    createdProvider := response.created }

def CreatedStrikeReceiveRequest.stored (created : CreatedStrikeReceiveRequest)
    (addressUser creditPool : String) (amountMsat : Nat) : StoredStrikeReceiveRequest where
  receiveRequestId := created.receiveRequestId
  addressUser := addressUser
  creditPool := creditPool
  amountMsat := amountMsat
  descriptionHash := created.descriptionHash
  paymentHash := created.paymentHash
  invoice := created.invoice
  createdProvider := created.createdProvider

/-! ## The checks agree -/

section Agree

variable {left right other : String}

theorem eqIgnoreAsciiCase_iff :
    eqIgnoreAsciiCase left right ↔ toAsciiLowercase left = toAsciiLowercase right := by
  constructor
  · exact toAsciiLowercase_eq
  · intro same
    have lists := congrArg String.toList same
    rw [toAsciiLowercase, toAsciiLowercase, String.toList_map, String.toList_map] at lists
    exact lists

theorem eqIgnoreAsciiCase_lowercase :
    eqIgnoreAsciiCase left (toAsciiLowercase right) ↔ eqIgnoreAsciiCase left right := by
  rw [eqIgnoreAsciiCase_iff, eqIgnoreAsciiCase_iff, toAsciiLowercase_idem]

variable [Bolt11] {response : ReceiveRequestResponse} {bolt11 : Bolt11ReceiveRequest}
  {amountMsat : Nat} {descriptionHash : String} {invoice : Bolt11Invoice}

theorem validateReceiveRequestResponse_congr
    (same : eqIgnoreAsciiCase descriptionHash other) :
    validateReceiveRequestResponse response amountMsat other =
      validateReceiveRequestResponse response amountMsat descriptionHash := by
  have asOther : ∀ hash, eqIgnoreAsciiCase hash other ↔ eqIgnoreAsciiCase hash descriptionHash := by
    intro hash
    rw [eqIgnoreAsciiCase_iff, eqIgnoreAsciiCase_iff, toAsciiLowercase_eq same]
  simp only [validateReceiveRequestResponse, Bolt11.verify, asOther]

theorem validateReceiveRequestResponse_answers
    (validated : validateReceiveRequestResponse response amountMsat descriptionHash = .ok invoice) :
    ∃ bolt11, response.bolt11 = some bolt11 ∧
      ∀ hash ∈ bolt11.descriptionHash, eqIgnoreAsciiCase hash descriptionHash := by
  simp only [validateReceiveRequestResponse, bind_eq_ok, require_eq_ok, checkOptional_eq_ok,
    ensure_eq_ok] at validated
  rcases validated with ⟨_, _, bolt11, isBolt11, _, _, _, _, _, _, _, descriptions, _⟩
  refine ⟨bolt11, isBolt11, fun hash isHash => ?_⟩
  rcases descriptions hash isHash with ⟨_, _, same⟩
  exact same

variable {requested : UInt64} {expirySeconds : Nat}
  {send : CreateReceiveRequestBody → Except ProviderFailure ReceiveRequestResponse}
  {now : Option Nat} {created : CreatedStrikeReceiveRequest} {addressUser creditPool : String}

/-- The answer that a request was created with passes the checks of its reconciliations. -/
theorem created_request_valid
    (creates : createBolt11ReceiveRequest requested descriptionHash expirySeconds send now =
      .ok created) :
    ∃ response, send (createBody requested descriptionHash expirySeconds) = .ok response ∧
      validateStoredRequest response
        (created.stored addressUser creditPool requested.toNat).lowercased = .ok () := by
  simp only [createBolt11ReceiveRequest, bind_eq_ok, mapError_eq_ok, require_eq_ok,
    pure_eq_ok] at creates
  rcases creates with ⟨_, _, _, _, _, _, response, answered, invoice, validated, _, _, bolt11,
    isBolt11, rfl⟩
  refine ⟨response, answered, ?_⟩
  have sameDescription : eqIgnoreAsciiCase descriptionHash (toAsciiLowercase
      (bolt11.descriptionHash.getD (toAsciiLowercase descriptionHash))) := by
    rw [eqIgnoreAsciiCase_lowercase]
    rcases validateReceiveRequestResponse_answers validated with ⟨answeredBolt11, same, hashes⟩
    rw [isBolt11] at same
    cases same
    cases isHash : bolt11.descriptionHash with
    | none =>
        rw [Option.getD_none, eqIgnoreAsciiCase_lowercase]
        exact rfl
    | some hash => exact (hashes hash isHash).symm
  have validatedStored : validateReceiveRequestResponse response requested.toNat (toAsciiLowercase
      (bolt11.descriptionHash.getD (toAsciiLowercase descriptionHash))) = .ok invoice := by
    rw [validateReceiveRequestResponse_congr sameDescription]
    exact validated
  have sameHash : eqIgnoreAsciiCase bolt11.paymentHash
      (toAsciiLowercase (toAsciiLowercase bolt11.paymentHash)) := by
    rw [eqIgnoreAsciiCase_lowercase, eqIgnoreAsciiCase_lowercase]
    exact rfl
  simp only [validateStoredRequest, bind_eq_ok, ensure_eq_ok, require_eq_ok]
  exact ⟨.unit, rfl, invoice, validatedStored, bolt11, isBolt11, .unit, rfl, sameHash⟩

end Agree

/-! ## Identifiers of receives -/

theorem digitChar_printed : ∀ digit : Fin 16,
    (Nat.digitChar digit).utf8Size = 1 ∧ isControl (Nat.digitChar digit) = false := by
  decide

theorem Uuid.hexDigits_printed {count number : Nat} :
    ∀ character ∈ Uuid.hexDigits count number,
      character.utf8Size = 1 ∧ isControl character = false := by
  induction count generalizing number with
  | zero =>
      intro character member
      cases member
  | succ count induction =>
      intro character member
      rw [Uuid.hexDigits, List.mem_append, List.mem_singleton] at member
      cases member with
      | inl earlier => exact induction character earlier
      | inr last =>
          rw [last]
          exact digitChar_printed ⟨number % 16, Nat.mod_lt _ (by decide)⟩

theorem Uuid.toText_printed (id : Uuid) : ∀ character ∈ id.toText.toList,
    character.utf8Size = 1 ∧ isControl character = false := by
  intro character member
  have digits : ∀ other ∈ Uuid.hexDigits 32 id.value.toNat,
      other.utf8Size = 1 ∧ isControl other = false := Uuid.hexDigits_printed
  have hyphen : '-'.utf8Size = 1 ∧ isControl '-' = false := by decide
  rw [Uuid.toText, String.toList_ofList, Uuid.hyphenate] at member
  simp only [List.mem_append, List.mem_cons, List.append_assoc, List.cons_append] at member
  rcases member with first | rfl | second | rfl | third | rfl | fourth | rfl | last
  · exact digits _ (List.mem_of_mem_take first)
  · exact hyphen
  · exact digits _ (List.mem_of_mem_drop (List.mem_of_mem_take second))
  · exact hyphen
  · exact digits _ (List.mem_of_mem_drop (List.mem_of_mem_take third))
  · exact hyphen
  · exact digits _ (List.mem_of_mem_drop (List.mem_of_mem_take fourth))
  · exact hyphen
  · exact digits _ (List.mem_of_mem_drop last)

theorem Uuid.toText_external (id : Uuid) (field : String) :
    validateExternalId id.toText field 256 = .ok () := by
  have printed := id.toText_printed
  have length : id.toText.utf8ByteSize = 36 := by
    rw [Text.utf8ByteSize_eq_length fun character member => (printed character member).1,
      Uuid.toText, String.toList_ofList, Uuid.hyphenate]
    simp [Uuid.length_hexDigits]
  rw [validateExternalId_eq_ok]
  refine ⟨⟨?_, by rw [length]; decide⟩, ?_⟩
  · intro empty
    rw [empty] at length
    cases length
  · rw [List.any_eq_false]
    intro character member
    rw [(printed character member).2]
    decide

/-! ## Paid invoices are credited -/

structure PaysIssued (stored : StoredStrikeReceiveRequest) (receive : StrikeReceive) : Prop where
  belongs : receive.receiveRequestId = stored.receiveRequestId
  isLightning : receive.receiveType = "LIGHTNING"
  completed : receive.state = "COMPLETED"
  evidence : validateProviderAmount receive.amountReceived = .ok ()
  inBitcoin : receive.amountReceived.currency = "BTC"
  amount : msatOf .amount receive.amountReceived.amount = .ok stored.amountMsat
  credited : ∀ credited ∈ receive.amountCredited, credited = receive.amountReceived
  unconverted : receive.conversionRate = none
  lightning : ∃ lightning, receive.lightning = some lightning ∧
    isHex32 lightning.paymentHash = true ∧
    eqIgnoreAsciiCase lightning.paymentHash stored.paymentHash ∧
    lightning.invoice = stored.invoice ∧
    ∀ hash ∈ lightning.descriptionHash, eqIgnoreAsciiCase hash stored.descriptionHash

section Paid

variable {stored : StoredStrikeReceiveRequest} {receive : StrikeReceive}

theorem reconcileLightning_of_pays (pays : PaysIssued stored receive) :
    reconcileLightning stored receive =
      .ok (stored.amountMsat, some (toAsciiLowercase stored.paymentHash)) := by
  rcases pays.lightning with ⟨lightning, isLightning, isHash, sameHash, sameInvoice, descriptions⟩
  simp only [reconcileLightning, bind_eq_ok, ensure_eq_ok, require_eq_ok, checkOptional_eq_ok,
    checkHex32, pure_eq_ok]
  refine ⟨.unit, pays.inBitcoin, _, pays.amount, .unit, rfl, .unit, ?_, lightning, isLightning,
    .unit, isHash, .unit, sameHash, .unit, sameInvoice, .unit, descriptions, ?_⟩
  · intro credited isCredited
    rw [pays.credited credited isCredited]
    exact ⟨.unit, pays.inBitcoin, _, pays.amount, rfl⟩
  · rw [toAsciiLowercase_eq sameHash]

variable [Bolt11] {response : ReceiveRequestResponse} {items : List StrikeReceive}

theorem reconcile_of_pays (valid : validateStoredRequest response stored = .ok ())
    (pays : PaysIssued stored receive)
    (only : (items.filter fun item => item.receiveId = receive.receiveId) = [receive]) :
    ∃ result, reconcileCompletedReceive stored receive.receiveId ⟨.ok response, .ok items⟩ =
        .ok result ∧ result.receiveId = receive.receiveId ∧
      result.amountMsat = stored.amountMsat ∧
      result.paymentHash = some (toAsciiLowercase stored.paymentHash) := by
  have worth : reconcileType response stored receive =
      .ok (stored.amountMsat, some (toAsciiLowercase stored.paymentHash)) := by
    rw [reconcileType, if_pos pays.isLightning]
    exact reconcileLightning_of_pays pays
  have found := findReceive_eq_ok.mpr only
  simp only [reconcileCompletedReceive, bind_eq_ok, mapError_eq_ok, ensure_eq_ok,
    checkOptional_eq_ok, pure_eq_ok]
  refine ⟨_, ⟨response, rfl, .unit, valid, items, rfl, receive, found, .unit, pays.belongs,
    .unit, pays.completed, .unit, pays.evidence, .unit, ?_, _, worth, rfl⟩, rfl, rfl, rfl⟩
  rw [pays.unconverted]
  intro rate impossible
  cases impossible

/-! ## The ledger credits it -/

variable [SerdeJson] [ReceiveJson] {db : Db}

omit [Bolt11] in
theorem payment_accepted {result : ReconciledStrikeReceive} (accepted : stored.Accepted)
    (wholeSats : stored.amountMsat % 1000 = 0) (amount : result.amountMsat = stored.amountMsat)
    (hash : result.paymentHash = some stored.paymentHash)
    (isObject : SerdeJson.isObject (ReceiveJson.context result) = some true) :
    (result.payment stored).Accepted where
  valid := by
    have source : validateSource strikeSource = .ok () := by decide +kernel
    have noSettledAt : ∀ settledAt ∈ (none : Option Int), 0 ≤ settledAt := by
      intro settledAt impossible
      cases impossible
    simp only [validatePayment, ReconciledStrikeReceive.payment, validateOptionalHash,
      validateContextJson, hash, amount, bind_eq_ok, ensure_eq_ok, require_eq_ok, isObject,
      validateUser_eq_ok, validatePaymentHash_eq_ok]
    exact ⟨(), source, (), Uuid.toText_external _ _, (), accepted.addressUser, (),
      accepted.creditPool, (), accepted.paymentHash, .unit, accepted.nonzero, .unit, wholeSats,
      .unit, noSettledAt, true, rfl, rfl⟩
  bounded := by
    have bounded := accepted.bounded
    rw [← amount] at bounded
    exact bounded

/-- The receive and the hash have not been settled, and there is room for the
credit. -/
structure Creditworthy (stored : StoredStrikeReceiveRequest) (receiveId : Uuid) (db : Db) :
    Prop where
  unreceived : ¬ Received receiveId db
  unsettled : ∀ row ∈ db.settledPayments.rows, row.paymentHash ≠ some stored.paymentHash
  room : creditTotal db + (stored.amountMsat / 1000 : Nat) ≤ maxI64

/-- Whoever pays an invoice that was issued and recorded is credited: the checks at
creation, at reconciliation and in the ledger let nothing in between fail. -/
theorem paid_invoice_credited {amountMsat : UInt64} {expirySeconds : Nat}
    {descriptionHash : String}
    {send : CreateReceiveRequestBody → Except ProviderFailure ReceiveRequestResponse}
    {now : Option Nat} {created : CreatedStrikeReceiveRequest} {addressUser creditPool : String}
    {labels : List LedgerLabel} (run : LedgerRun .fresh labels db)
    (creates : createBolt11ReceiveRequest amountMsat descriptionHash expirySeconds send now =
      .ok created)
    (isStored : stored = (created.stored addressUser creditPool amountMsat.toNat).lowercased)
    (accepted : stored.Accepted) (wholeSats : amountMsat.toNat % 1000 = 0)
    (pays : PaysIssued stored receive)
    (only : (items.filter fun item => item.receiveId = receive.receiveId) = [receive])
    (isObject : ∀ result, SerdeJson.isObject (ReceiveJson.context result) = some true)
    (worthy : Creditworthy stored receive.receiveId db) :
    ∃ response result after,
      send (createBody amountMsat descriptionHash expirySeconds) = .ok response ∧
      reconcileCompletedReceive stored receive.receiveId ⟨.ok response, .ok items⟩ =
        .ok result ∧
      recordPayment (result.payment stored) db =
        .ok (.credited (amountMsat.toNat / 1000) addressUser creditPool, after) ∧
      Settles (result.payment stored) db after := by
  rcases @created_request_valid _ _ _ _ _ _ _ addressUser creditPool creates with
    ⟨response, answered, valid⟩
  rw [← isStored] at valid
  rcases reconcile_of_pays valid pays only with ⟨result, reconciled, sameId, amount, hash⟩
  have lowercase : toAsciiLowercase stored.paymentHash = stored.paymentHash := by
    rw [isStored]
    exact congrArg StoredStrikeReceiveRequest.paymentHash
      (StoredStrikeReceiveRequest.lowercased_lowercased _)
  rw [lowercase] at hash
  have sameAmount : stored.amountMsat = amountMsat.toNat := by rw [isStored]; rfl
  have paymentAccepted : (result.payment stored).Accepted :=
    payment_accepted accepted (sameAmount ▸ wholeSats) amount hash (isObject result)
  have isNew : (result.payment stored).IsNew db := by
    constructor
    · rintro row member ⟨isStrike, isReceive⟩
      have isReceive : row.sourceId = result.receiveId.toText := isReceive
      rw [sameId] at isReceive
      exact worthy.unreceived ⟨row, member, isStrike, isReceive⟩
    · intro row member other isHash
      have isHash : result.paymentHash = some other := isHash
      rw [hash] at isHash
      cases isHash
      exact worthy.unsettled row member
  have sats : (result.payment stored).sats = stored.amountMsat / 1000 :=
    congrArg (· / 1000) amount
  have room : creditTotal db + (result.payment stored).sats ≤ maxI64 := by
    rw [sats]
    exact worthy.room
  rcases recordPayment_new paymentAccepted isNew (Books.of_run run) (CreditSound.of_run run).tables
      room with ⟨after, recorded, settles⟩
  refine ⟨response, result, after, answered, reconciled, ?_, settles⟩
  rw [recorded, sats, sameAmount, isStored]
  rfl

end Paid

/-! ## An example -/

def exampleCreated : CreatedStrikeReceiveRequest where
  receiveRequestId := ⟨7⟩
  invoice := "lnbc20n1test"
  paymentHash := toAsciiLowercase exampleHash
  descriptionHash := toAsciiLowercase exampleHash
  createdProvider := none

def exampleResponse : ReceiveRequestResponse where
  receiveRequestId := ⟨7⟩
  created := none
  targetCurrency := some "BTC"
  bolt11 := some ⟨"lnbc20n1test", none, none, none, exampleHash⟩

/-- Strike knows the one request that it is asked for. -/
def exampleStrike (body : CreateReceiveRequestBody) :
    Except ProviderFailure ReceiveRequestResponse :=
  if body = createBody 2000 exampleHash 3600 then .ok exampleResponse else .error (.status 400)

def exampleLightning : StrikeReceive where
  receiveId := ⟨9⟩
  receiveRequestId := ⟨7⟩
  receiveType := "LIGHTNING"
  state := "COMPLETED"
  amountReceived := ⟨"0.00000002", "BTC"⟩
  amountCredited := none
  conversionRate := none
  completed := none
  lightning := some ⟨"lnbc20n1test", none, exampleHash⟩

theorem exampleStored_accepted :
    (exampleCreated.stored "dexter" "herd" 2000).lowercased.Accepted where
  descriptionHash := by decide +kernel
  paymentHash := by decide +kernel
  addressUser := by decide +kernel
  creditPool := by decide +kernel
  nonzero := by decide
  invoice := by decide +kernel
  bounded := by decide

theorem exampleLightning_pays :
    PaysIssued (exampleCreated.stored "dexter" "herd" 2000).lowercased exampleLightning where
  belongs := rfl
  isLightning := rfl
  completed := rfl
  evidence := ok_of_toOption (by decide +kernel)
  inBitcoin := rfl
  amount := ok_of_toOption (by decide +kernel)
  credited := by
    intro credited impossible
    cases impossible
  unconverted := rfl
  lightning := ⟨_, rfl, by decide +kernel, by decide +kernel, rfl, by decide +kernel⟩

theorem paid_invoice_credited_example :
    letI := exampleJson
    letI := exampleReceiveJson
    letI := exampleBolt11
    ∃ response result after,
      exampleStrike (createBody 2000 exampleHash 3600) = .ok response ∧
      reconcileCompletedReceive (exampleCreated.stored "dexter" "herd" 2000).lowercased ⟨9⟩
        ⟨.ok response, .ok [exampleLightning]⟩ = .ok result ∧
      recordPayment (result.payment (exampleCreated.stored "dexter" "herd" 2000).lowercased)
          Db.fresh = .ok (.credited 2 "dexter" "herd", after) ∧
      Settles (result.payment (exampleCreated.stored "dexter" "herd" 2000).lowercased) Db.fresh
        after := by
  let := exampleJson
  let := exampleReceiveJson
  let := exampleBolt11
  have isHash : isHex32 exampleHash = true := by decide +kernel
  have validated : validateReceiveRequestResponse exampleResponse 2000 exampleHash =
      .ok exampleInvoice := ok_of_toOption (by decide +kernel)
  have expires : verifyIssuanceExpiry exampleInvoice 3600 (some 0) = .ok () :=
    ok_of_toOption (by decide +kernel)
  have answered : exampleStrike (createBody 2000 exampleHash 3600) = .ok exampleResponse :=
    if_pos rfl
  have creates : createBolt11ReceiveRequest 2000 exampleHash 3600 exampleStrike (some 0) =
      .ok exampleCreated := by
    simp only [createBolt11ReceiveRequest, bind_eq_ok, mapError_eq_ok, ensure_eq_ok,
      require_eq_ok, pure_eq_ok, checkHex32]
    exact ⟨.unit, by decide, .unit, isHash, .unit, by decide, _, answered, _, validated, _, expires,
      _, rfl, rfl⟩
  apply paid_invoice_credited (.nil Db.fresh) creates rfl exampleStored_accepted (by decide)
    exampleLightning_pays (by decide) (fun _ => rfl)
  constructor
  · rintro ⟨row, member, _⟩
    cases member
  · intro row member
    cases member
  · decide +kernel

end LightningGoats
