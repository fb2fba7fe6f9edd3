import LightningGoats.Strike.Recovery

/-! # Credit for issued requests

A Lightning receive of an issued request is credited once, with the issued amount
under the issued hash. Any other receive is credited what Strike says it was
credited in bitcoin. Nothing else that Strike answers changes the ledger.
-/

namespace LightningGoats

open Outcome Relational Tasks

/-! ## Credits -/

structure ReceiveCredit where
  event : StrikeCompletedReceiveEvent
  stored : StoredStrikeReceiveRequest
  answers : ReceiveAnswers
  receive : ReconciledStrikeReceive
  sats : Nat
  addressUser : String
  creditPool : String

def LedgerLabel.credited : LedgerLabel → Option (Nat × String × String)
  | ⟨_, _, .ok (.settlement (.credited sats addressUser creditPool))⟩ =>
      some (sats, addressUser, creditPool)
  | _ => none

def creditOf : StrikeLabel → Option ReceiveCredit
  | .acted _ (.settle _ event stored answers receive) (.called label _) =>
      label.credited.map fun credited =>
        ⟨event, stored, answers, receive, credited.1, credited.2.1, credited.2.2⟩
  | _ => none

def creditsLightning (receiveRequestId : Uuid) (label : StrikeLabel) : Bool :=
  (creditOf label).any fun credit =>
    credit.stored.receiveRequestId = receiveRequestId && credit.receive.receiveType = "LIGHTNING"

def reconciles : StrikeLabel → Bool
  | .acted _ (.look _ _) _ | .acted _ (.ask _ _ _) _ | .acted _ (.settle _ _ _ _ _) _ => true
  | _ => false

inductive Worth (stored : StoredStrikeReceiveRequest) (receive : StrikeReceive) (sats : Nat) :
    Option String → Prop
  | lightning (isLightning : receive.receiveType = "LIGHTNING")
      (issued : sats = stored.amountMsat / 1000) :
      Worth stored receive sats (some stored.paymentHash)
  | p2p {credited : ProviderAmount} (isP2p : receive.receiveType = "P2P")
      (isCredited : receive.amountCredited = some credited) (inBitcoin : credited.currency = "BTC")
      (exact : IsMsat credited.amount (1000 * sats)) (positive : 0 < sats) :
      Worth stored receive sats none

/-- The credit is for a completed receive of the issued request, and is booked to the
accounts of the request. -/
structure CreditDue (credit : ReceiveCredit) (db : Db) : Prop where
  issued : findRequest credit.event.receiveRequestId db = some credit.stored
  account : credit.addressUser = credit.stored.addressUser ∧
    credit.creditPool = credit.stored.creditPool
  worth : ∃ receive paymentHash, CompletedReceive credit.stored credit.event.receiveId
      credit.answers receive ∧
    Worth credit.stored receive credit.sats paymentHash ∧
    ∃ row ∈ db.settledPayments.rows, row.source = strikeSource ∧
      row.sourceId = credit.event.receiveId.toText ∧ row.paymentHash = paymentHash ∧
      row.addressUser = credit.stored.addressUser ∧ row.creditPool = credit.stored.creditPool ∧
      (db.ledgerEntries.rows.filter fun entry => entry.paymentSource = some strikeSource &&
        entry.paymentSourceId = some credit.event.receiveId.toText) = [row.entry] ∧
      row.entry.deltaSats = credit.sats

/-! ## Recording a receive -/

section Steps

variable {before after : Db} {now : Int} {payment : SettledPayment}

theorem Settles.settled_mem (settles : Settles payment before after) :
    payment.settledRow ∈ after.settledPayments.rows := by
  cases settles with
  | intro _ rowFresh => exact Table.mem_rows_insert_new rowFresh

theorem Settles.hash_fresh (settles : Settles payment before after) {hash : String}
    (hashed : payment.paymentHash = some hash) :
    ∀ row ∈ before.settledPayments.rows, row.paymentHash ≠ some hash := by
  intro row member sameHash
  cases settles with
  | intro _ rowFresh =>
      exact rowFresh row member (.inr (sameKey_iff.mpr ⟨hash, sameHash, hashed⟩))

theorem findRequest_id {id : Uuid} {stored : StoredStrikeReceiveRequest}
    (found : findRequest id before = some stored) : stored.receiveRequestId = id := by
  rcases Option.map_eq_some_iff.mp found with ⟨row, selected, rfl⟩
  simpa using List.find?_some selected

theorem recordPayment_step_cases [SerdeJson] {result : Except LedgerError LedgerResponse}
    (step : LedgerStep before ⟨.recordPayment payment, now, result⟩ after) :
    (LedgerLabel.credited ⟨.recordPayment payment, now, result⟩ = none ∧ after = before) ∨
      LedgerLabel.credited ⟨.recordPayment payment, now, result⟩ =
          some (payment.sats, payment.addressUser, payment.creditPool) ∧
        Settles payment before after := by
  rcases ledgerStep_cases step with ⟨error, failed, rfl⟩ | ⟨response, succeeded, ran⟩
  · dsimp only at failed
    subst failed
    exact .inl ⟨rfl, rfl⟩
  · simp only [LedgerCall.body, transact_eq_ok] at ran
    rcases ran with ⟨outcome, recorded, rfl⟩
    dsimp only at succeeded
    subst succeeded
    rcases (recordPayment_cases recorded).2.2 with ⟨rfl, rfl, _⟩ | ⟨rfl, _, settles⟩
    · exact .inl ⟨rfl, rfl⟩
    · exact .inr ⟨rfl, settles⟩

end Steps

theorem Reconciles.worth [ReceiveJson] {stored : StoredStrikeReceiveRequest} {receiveId : Uuid}
    {answers : ReceiveAnswers} {receive : StrikeReceive} {result : ReconciledStrikeReceive}
    (reconciles : Reconciles stored receiveId answers receive result)
    (lowercased : stored.lowercased = stored) :
    Worth stored receive (result.payment stored).sats result.paymentHash := by
  cases reconciles.pays with
  | inl pays =>
      have sameHash : toAsciiLowercase stored.paymentHash = stored.paymentHash :=
        congrArg StoredStrikeReceiveRequest.paymentHash lowercased
      rw [pays.2.hash, sameHash]
      exact .lightning pays.1 (congrArg (· / 1000) pays.2.amount)
  | inr pays =>
      rcases pays.2.credited with ⟨credited, isCredited, inBitcoin, exact⟩
      have whole : 1000 * (result.payment stored).sats = result.amountMsat :=
        Nat.mul_div_cancel' (Nat.dvd_of_mod_eq_zero pays.2.wholeSats.2)
      have positive : 0 < result.amountMsat := pays.2.wholeSats.1
      rw [pays.2.hash]
      apply Worth.p2p pays.1 isCredited inBitcoin
      · rw [whole]
        exact exact
      · omega

/-! ## Runs -/

theorem creditOf_eq_some {label : StrikeLabel} {credit : ReceiveCredit}
    (isCredit : creditOf label = some credit) :
    ∃ index work called replied, label = .acted index
        (.settle work credit.event credit.stored credit.answers credit.receive)
        (.called called replied) ∧
      called.credited = some (credit.sats, credit.addressUser, credit.creditPool) := by
  unfold creditOf at isCredit
  split at isCredit
  · rename_i index work event stored answers receive called replied
    rcases Option.map_eq_some_iff.mp isCredit with ⟨credited, isCredited, rfl⟩
    exact ⟨index, work, called, replied, rfl, isCredited⟩
  · cases isCredit

section Runs

variable [SerdeJson] [ReceiveJson] [Bolt11] {system : StrikeSystem} {labels : List StrikeLabel}

/-- A credit settles the payment of a receive that Strike has answered for. -/
theorem StrikeActs.credits {index : Nat} {task next : StrikeTask} {event : StrikeEvent}
    {before after : Db} (acts : StrikeActs task before event next after)
    {credit : ReceiveCredit} (isCredit : creditOf (.acted index task event) = some credit)
    (sound : task.Sound before) :
    findRequest credit.event.receiveRequestId before = some credit.stored ∧
      reconcileCompletedReceive credit.stored credit.event.receiveId credit.answers =
        .ok credit.receive ∧
      credit.sats = (credit.receive.payment credit.stored).sats ∧
      credit.addressUser = credit.stored.addressUser ∧
      credit.creditPool = credit.stored.creditPool ∧
      Settles (credit.receive.payment credit.stored) before after := by
  rcases creditOf_eq_some isCredit with ⟨_, work, called, replied, isLabel, credited⟩
  cases isLabel
  cases acts with
  | called _ calls step =>
      rcases called with ⟨call, now, result⟩
      cases calls
      rcases recordPayment_step_cases step with ⟨uncredited, _⟩ | ⟨isCredited, settles⟩
      · rw [uncredited] at credited
        cases credited
      · rw [isCredited, Option.some.injEq, Prod.mk.injEq, Prod.mk.injEq] at credited
        rcases credited with ⟨sats, addressUser, creditPool⟩
        exact ⟨sound.2.1, sound.2.2, sats.symm, addressUser.symm, creditPool.symm, settles⟩

theorem creditDue_of_run (run : StrikeRun .fresh labels system) {label : StrikeLabel}
    (member : label ∈ labels) {credit : ReceiveCredit} (isCredit : creditOf label = some credit) :
    CreditDue credit system.store := by
  rcases creditOf_eq_some isCredit with ⟨index, work, called, replied, rfl, _⟩
  rcases List.append_of_mem member with ⟨earlier, later, rfl⟩
  have books := Books.of_run (ledgerRun_of_run run)
  rcases strikeDiscipline.acted_at safe_fresh run with
    ⟨source, target, next, first, held, sound, acts, _, safe, rest⟩
  rcases acts.credits isCredit sound with
    ⟨found, reconciled, sats, addressUser, creditPool, settles⟩
  rcases reconcileCompletedReceive_reconciles reconciled with ⟨receive, reconciles⟩
  have lowercased := (RequestsLowercased.of_run (ledgerRun_of_run first)).found found
  have settled := (settlements_extend_run (ledgerRun_of_run rest)).mem_rows settles.settled_mem
  have sameId : (credit.receive.payment credit.stored).sourceId =
      credit.event.receiveId.toText := congrArg Uuid.toText reconciles.sameId
  have booked := books.entries_of_settlement settled
  constructor
  · have stepped := (strikeDiscipline.acts held.good sound acts).2.2
    exact found_grow found (stepped.trans (strikeDiscipline.run safe rest).2)
  · exact ⟨addressUser, creditPool⟩
  · refine ⟨receive, credit.receive.paymentHash, reconciles.found, ?_, _, settled, rfl, sameId,
      rfl, rfl, rfl, ?_, ?_⟩
    · rw [sats]
      exact reconciles.worth lowercased
    · rw [← sameId]
      exact booked
    · rw [← SettledPayment.settledEntry_eq, sats]
      rfl

def HashSettled (receiveRequestId : Uuid) (db : Db) : Prop :=
  ∃ stored row, findRequest receiveRequestId db = some stored ∧
    row ∈ db.settledPayments.rows ∧ row.paymentHash = some stored.paymentHash

omit [ReceiveJson] [Bolt11] in
theorem HashSettled.grow {receiveRequestId : Uuid} {before after : Db}
    (settled : HashSettled receiveRequestId before) (grows : LedgerGrows before after) :
    HashSettled receiveRequestId after := by
  rcases settled with ⟨stored, row, found, member, hashed⟩
  rcases grows with ⟨calls, run⟩
  exact ⟨stored, row, found_of_run found run, (settlements_extend_run run).mem_rows member, hashed⟩

omit [ReceiveJson] [Bolt11] [SerdeJson] in
theorem creditsLightning_eq_true {receiveRequestId : Uuid} {label : StrikeLabel}
    (credits : creditsLightning receiveRequestId label = true) :
    ∃ credit, creditOf label = some credit ∧
      credit.stored.receiveRequestId = receiveRequestId ∧
      credit.receive.receiveType = "LIGHTNING" := by
  rw [creditsLightning, Option.any_eq_true_iff_get] at credits
  rcases credits with ⟨isSome, selected⟩
  simp only [Bool.and_eq_true, decide_eq_true_eq] at selected
  exact ⟨_, (Option.some_get isSome).symm, selected⟩

/-- A Lightning receive is credited while the hash of the request has not been
settled, and settles it. -/
theorem StrikeActs.settles_hash {index : Nat} {task next : StrikeTask} {event : StrikeEvent}
    {before after : Db} {receiveRequestId : Uuid} (acts : StrikeActs task before event next after)
    (credits : creditsLightning receiveRequestId (.acted index task event) = true)
    (sound : task.Sound before) (lowercased : RequestsLowercased before)
    (grows : LedgerGrows before after) :
    ¬ HashSettled receiveRequestId before ∧ HashSettled receiveRequestId after := by
  rcases creditsLightning_eq_true credits with ⟨credit, isCredit, isRequest, isLightning⟩
  rcases acts.credits isCredit sound with ⟨found, reconciled, _, _, _, settles⟩
  rcases reconcileCompletedReceive_reconciles reconciled with ⟨receive, reconciles⟩
  have isId := findRequest_id found
  rw [isRequest] at isId
  rw [← isId] at found
  have hashed : (credit.receive.payment credit.stored).paymentHash =
      some credit.stored.paymentHash := by
    have worth := reconciles.worth (lowercased.found found)
    generalize isHash : credit.receive.paymentHash = paymentHash at worth
    cases worth with
    | lightning => exact isHash
    | p2p isP2p =>
        rw [← reconciles.sameType, isLightning] at isP2p
        exact absurd isP2p (by decide)
  constructor
  · rintro ⟨stored, row, sameRequest, member, sameHash⟩
    rw [found] at sameRequest
    cases sameRequest
    exact settles.hash_fresh hashed row member sameHash
  · exact ⟨_, _, found_grow found grows, settles.settled_mem, hashed⟩

theorem lightning_credited_once (run : StrikeRun .fresh labels system) (receiveRequestId : Uuid) :
    labels.countP (creditsLightning receiveRequestId) ≤ 1 ∧
      (0 < labels.countP (creditsLightning receiveRequestId) →
        HashSettled receiveRequestId system.store) := by
  have history := @Execution.Run.history _ _ (Tasks.Step strikeProtocol) _ _ _
    (fun past state => StrikeRun .fresh past state ∧
      past.countP (creditsLightning receiveRequestId) ≤ 1 ∧
      (0 < past.countP (creditsLightning receiveRequestId) →
        HashSettled receiveRequestId state.store)) ?_ run [] ⟨.nil _, by simp, by simp⟩
  · rw [List.nil_append] at history
    exact history.2
  · rintro past source label target ⟨reached, atMostOne, settled⟩ step
    have safe := safe_of_run reached
    have grows := (strikeDiscipline.step safe step).2
    refine ⟨reached.append (.single step), ?_⟩
    rw [List.countP_append, List.countP_singleton]
    by_cases credits : creditsLightning receiveRequestId label = true
    · rw [if_pos credits]
      cases step with
      | acted running acts =>
          have sound := safe.sound _ (List.mem_of_getElem? running)
          have lowercased := RequestsLowercased.of_run (ledgerRun_of_run reached)
          rcases acts.settles_hash credits sound lowercased grows with ⟨unsettled, settles⟩
          have none : past.countP (creditsLightning receiveRequestId) = 0 := by
            by_contra some
            exact unsettled (settled (Nat.pos_of_ne_zero some))
          rw [none]
          exact ⟨Nat.le_refl 1, fun _ => settles⟩
      | _ => cases credits
    · rw [if_neg credits, Nat.add_zero]
      exact ⟨atMostOne, fun positive => (settled positive).grow grows⟩

/-- A step of a reconciliation that credits nothing leaves the ledger alone. -/
theorem uncredited_silent {source target : StrikeSystem} {label : StrikeLabel}
    (step : Tasks.Step strikeProtocol source label target) (isReconciling : reconciles label = true)
    (uncredited : creditOf label = none) : target.store = source.store := by
  cases step with
  | @acted _ task _ _ _ running acts =>
      cases acts with
      | @called _ _ _ called replied calls step =>
          rcases called with ⟨call, now, result⟩
          cases task with
          | look =>
              cases calls
              rcases ledgerStep_cases step with ⟨_, _, unchanged⟩ | ⟨_, _, ran⟩
              · exact unchanged
              · simp only [LedgerCall.body, readOnly_eq_ok] at ran
                rcases ran with ⟨_, _, _, unchanged⟩
                exact unchanged
          | settle =>
              cases calls
              rcases recordPayment_step_cases step with ⟨_, unchanged⟩ | ⟨credited, _⟩
              · exact unchanged
              · rw [creditOf, credited] at uncredited
                cases uncredited
          | ask => cases calls
          | _ => cases isReconciling
      | _ => rfl
  | _ => cases isReconciling

structure RequestsCredited (labels : List StrikeLabel) (db : Db) : Prop where
  due : ∀ label ∈ labels, ∀ credit ∈ creditOf label, CreditDue credit db
  lightning : ∀ receiveRequestId, labels.countP (creditsLightning receiveRequestId) ≤ 1
  silent : ∀ earlier label later source target, labels = earlier ++ label :: later →
    StrikeRun .fresh earlier source → Tasks.Step strikeProtocol source label target →
    reconciles label = true → creditOf label = none → target.store = source.store

/-- Whatever Strike answers, an issued request is credited for one Lightning receive at
most, and every credit is what the completed receive is worth. -/
theorem strike_requests_credited (run : StrikeRun .fresh labels system) :
    RequestsCredited labels system.store where
  due := fun _ member _ isCredit => creditDue_of_run run member isCredit
  lightning := fun receiveRequestId => (lightning_credited_once run receiveRequestId).1
  silent := fun _ _ _ _ _ _ _ step => uncredited_silent step

end Runs

/-- A receive that pays the invoice. -/
def examplePaid (receiveId : Uuid) : StrikeReceive :=
  { exampleReceive with
    receiveId := receiveId
    receiveType := "LIGHTNING"
    amountReceived := ⟨"0.00000002", "BTC"⟩
    lightning := some ⟨"lnbc20n1test", none, exampleHash⟩ }

/-- Three receives of the request are reported, two of them for the one invoice. -/
def exampleReceived : List StrikeInput :=
  let answers := exampleAnswers [exampleReceive, examplePaid ⟨8⟩, examplePaid ⟨10⟩]
  [.other (.recordStrikeReceiveRequest exampleIssued) 1,
    .start (.look none ⟨⟨1⟩, ⟨7⟩, ⟨8⟩⟩), .call 0 2 true, .ask 0 answers, .call 0 3 true,
    .start (.look none ⟨⟨2⟩, ⟨7⟩, ⟨10⟩⟩), .call 1 4 true, .ask 1 answers, .call 1 5 true,
    .start (.look none exampleEvent), .call 2 6 true, .ask 2 answers, .call 2 7 true]

theorem strike_requests_credited_example :
    let received := examplePerform exampleReceived
    (received.1.filterMap creditOf).map
        (fun credit => (credit.event.receiveId, credit.receive.receiveType, credit.sats)) =
      [(⟨8⟩, "LIGHTNING", 2), (⟨9⟩, "P2P", 2)] ∧
      @RequestsCredited exampleJson exampleReceiveJson exampleBolt11 received.1 received.2.store :=
  ⟨by decide +kernel, @strike_requests_credited exampleJson exampleReceiveJson exampleBolt11 _ _
    (examplePerform_run exampleReceived)⟩

end LightningGoats
