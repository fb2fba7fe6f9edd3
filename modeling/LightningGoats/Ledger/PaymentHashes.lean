import LightningGoats.Ledger.Deliveries

/-! # The payment hash as a collision boundary

A payment hash is 32 bytes, and validation accepts each of them in either letter
case. The boundary compares the texts, so it holds exactly as long as no payment
spells a settled hash differently.
-/

namespace LightningGoats

open Outcome Relational

/-! ## Hashes -/

def hexNibble (character : Char) : Option Nat :=
  if character.isDigit then some (character.toNat - '0'.toNat)
  else if 'a' ≤ character ∧ character ≤ 'f' then some (character.toNat - 'a'.toNat + 10)
  else if 'A' ≤ character ∧ character ≤ 'F' then some (character.toNat - 'A'.toNat + 10)
  else none

def hexBytes : List Char → Option (List Nat)
  | [] => some []
  | [_] => none
  | high :: low :: rest => do
      let upper ← hexNibble high
      let lower ← hexNibble low
      let bytes ← hexBytes rest
      return (16 * upper + lower) :: bytes

/-- Two texts spell the same bytes. -/
def SameBytes (left right : String) : Prop :=
  hexBytes left.toList = hexBytes right.toList

instance (left right : String) : Decidable (SameBytes left right) :=
  inferInstanceAs (Decidable (_ = _))

/-- A hash belongs to one settlement. -/
def HashesIdentify (db : Db) : Prop :=
  ∀ left ∈ db.settledPayments.rows, ∀ right ∈ db.settledPayments.rows,
    ∀ leftHash ∈ left.paymentHash, ∀ rightHash ∈ right.paymentHash,
      SameBytes leftHash rightHash →
        left.source = right.source ∧ left.sourceId = right.sourceId

instance (db : Db) : Decidable (HashesIdentify db) := by
  unfold HashesIdentify
  infer_instance

/-- A payment whose hash another settlement has in another spelling, and that nothing
else keeps from being settled: it passes the checks, its identity and the text of its
hash are new, and the credit has room for it. -/
structure SettledPayment.Respells [SerdeJson] (payment : SettledPayment) (db : Db) : Prop where
  accepted : payment.Accepted
  isNew : payment.IsNew db
  room : creditTotal db + payment.sats ≤ maxI64
  respelled : ∃ row ∈ db.settledPayments.rows, ∃ hash ∈ payment.paymentHash,
    ∃ other ∈ row.paymentHash, SameBytes other hash

/-! ## Settling -/

theorem HashesIdentify.ofFresh : HashesIdentify Db.fresh := by
  simp [HashesIdentify, Db.fresh]

section Steps

variable {before after : Db} {payment : SettledPayment}

theorem Settles.isNew (settles : Settles payment before after) : payment.IsNew before := by
  cases settles with
  | intro _ rowFresh _ _ _ _ _ _ _ =>
    constructor
    · rintro row member ⟨sameSource, sameId⟩
      refine rowFresh row member (.inl (sameKey_iff.mpr
        ⟨(payment.source, payment.sourceId), ?_, rfl⟩))
      rw [sameSource, sameId]
    · intro row member hash isHash sameHash
      exact rowFresh row member (.inr (sameKey_iff.mpr ⟨hash, sameHash, isHash⟩))

theorem Settles.room (settles : Settles payment before after) :
    creditTotal before + payment.sats ≤ maxI64 := by
  cases settles with
  | @intro credit _ _ _ entryFresh read _ _ _ _ _ =>
    have booked : ((credit : Nat) : Int) = creditTotal before + payment.sats := by
      rw [feedCredit_total read]
      exact Books.creditTotal_insert entryFresh rfl
    rw [← booked]
    exact CheckedSum.sum_le (by decide) (sqlSum_eq_ok.mp (feedCredit_eq_ok.mp read))

variable [SerdeJson]

theorem HashesIdentify.of_settles (identify : HashesIdentify before)
    (accepted : payment.Accepted) (spelled : ¬ payment.Respells before)
    (settles : Settles payment before after) : HashesIdentify after := by
  have differs : ∀ old ∈ before.settledPayments.rows, ∀ oldHash ∈ old.paymentHash,
      ∀ hash ∈ payment.paymentHash, ¬ SameBytes oldHash hash := by
    intro old member oldHash isOldHash hash isHash sameBytes
    exact spelled ⟨accepted, settles.isNew, settles.room, old, member, hash, isHash, oldHash,
      isOldHash, sameBytes⟩
  cases settles with
  | intro _ rowFresh _ _ _ _ _ _ _ =>
    intro left leftMember right rightMember leftHash isLeft rightHash isRight sameBytes
    rcases (Table.mem_rows_insert rowFresh).mp leftMember with leftOld | rfl
    · rcases (Table.mem_rows_insert rowFresh).mp rightMember with rightOld | rfl
      · exact identify left leftOld right rightOld leftHash isLeft rightHash isRight sameBytes
      · exact absurd sameBytes (differs left leftOld leftHash isLeft rightHash isRight)
    · rcases (Table.mem_rows_insert rowFresh).mp rightMember with rightOld | rfl
      · exact absurd sameBytes.symm (differs right rightOld rightHash isRight leftHash isLeft)
      · exact ⟨rfl, rfl⟩

end Steps

/-! ## Runs -/

section Runs

variable [SerdeJson] {before after : Db} {label : LedgerLabel} {labels : List LedgerLabel}

theorem settlements_of_step (step : LedgerStep before label after) :
    after.settledPayments = before.settledPayments ∨
      ∃ payment, label.call = .recordPayment payment ∧ payment.Accepted ∧
        Settles payment before after := by
  by_cases isPayment : ∃ payment, label.call = .recordPayment payment
  · rcases isPayment with ⟨payment, isCall⟩
    rcases ledgerStep_cases step with ⟨_, _, rfl⟩ | ⟨_, _, ran⟩
    · exact .inl rfl
    · rw [isCall] at ran
      simp only [LedgerCall.body, transact_eq_ok] at ran
      rcases ran with ⟨_, recorded, _⟩
      rcases recordPayment_cases recorded with
        ⟨valid, creditable, ⟨_, rfl, _⟩ | ⟨_, _, settles⟩⟩
      · exact .inl rfl
      · exact .inr ⟨payment, isCall, ⟨valid, creditable.bounded⟩, settles⟩
  · refine .inl ((ledgerStep_effect step).settlements fun isPayments => isPayment ?_)
    cases isCall : label.call with
    | recordPayment payment => exact ⟨payment, rfl⟩
    | _ =>
        rw [isCall] at isPayments
        cases isPayments

def LedgerCall.Respells (call : LedgerCall) (db : Db) : Prop :=
  ∃ payment, call = .recordPayment payment ∧ payment.Respells db

theorem HashesIdentify.of_step (identify : HashesIdentify before)
    (spelled : ¬ label.call.Respells before) (step : LedgerStep before label after) :
    HashesIdentify after := by
  rcases settlements_of_step step with unchanged | ⟨payment, isCall, accepted, settles⟩
  · unfold HashesIdentify
    rw [unchanged]
    exact identify
  · exact identify.of_settles accepted (fun respells => spelled ⟨payment, isCall, respells⟩) settles

theorem not_hashesIdentify_of_respells (books : Books before) (tables : CreditTables before)
    (respells : label.call.Respells before) (step : LedgerStep before label after)
    {final : Db} (rest : LedgerRun after labels final) : ¬ HashesIdentify final := by
  intro identify
  rcases label with ⟨call, now, result⟩
  rcases respells with ⟨payment, rfl, respells⟩
  rcases recordPayment_new respells.accepted respells.isNew books tables respells.room with
    ⟨settled, recorded, settles⟩
  have executed : execute (.recordPayment payment) now before = (.ok (.settlement
      (.credited payment.sats payment.addressUser payment.creditPool)), settled) := by
    rw [execute, LedgerCall.body, transact_eq_ok.mpr ⟨_, recorded, rfl⟩]
  have sameDb : settled = after := congrArg Prod.snd (executed.symm.trans step)
  rw [sameDb] at settles
  rcases respells.respelled with ⟨row, member, hash, isHash, other, isOther, sameBytes⟩
  cases settles with
  | intro _ rowFresh _ _ _ _ _ _ _ =>
    have kept := settlements_extend_run rest
    exact respells.isNew.identity row member (identify row
      (kept.mem_rows (Table.mem_rows_insert_old rowFresh member)) payment.settledRow
      (kept.mem_rows (Table.mem_rows_insert_new rowFresh)) other isOther hash isHash sameBytes)

/-- A hash identifies its settlement exactly as long as no payment is let through that
spells the hash of another one differently. -/
theorem payment_hashes_identify (run : LedgerRun Db.fresh labels after) :
    HashesIdentify after ↔
      ∀ earlier label later source, labels = earlier ++ label :: later →
        LedgerRun Db.fresh earlier source → ¬ label.call.Respells source := by
  constructor
  · intro identify earlier label later source split reached respells
    rw [split] at run
    rcases run.at_split with ⟨middle, target, first, step, rest⟩
    have sameState : middle = source := (run_replay first).trans (run_replay reached).symm
    rw [sameState] at step
    exact not_hashesIdentify_of_respells (Books.of_run reached) (CreditSound.of_run reached).tables
      respells step rest identify
  · intro spelled
    have history := @Execution.Run.history _ _ LedgerStep _ _ _
      (fun past state => past <+: labels → LedgerRun Db.fresh past state ∧ HashesIdentify state)
      ?_ run [] fun _ => ⟨.nil _, .ofFresh⟩
    · exact (history (List.prefix_refl _)).2
    · rintro past source label target held step ⟨later, isPrefix⟩
      rw [List.append_assoc, List.singleton_append] at isPrefix
      rcases held ⟨label :: later, isPrefix⟩ with ⟨reached, identify⟩
      exact ⟨reached.append (.single step),
        identify.of_step (spelled past label later source isPrefix.symm reached) step⟩

end Runs

/-! ## Two spellings -/

def hashedPayment (sourceId : String) (digit : Char) : SettledPayment :=
  { examplePayment with
    sourceId := sourceId
    paymentHash := some (String.ofList (List.replicate 64 digit)) }

def hashedCalls : List (LedgerCall × Int) :=
  [(.recordPayment (hashedPayment "first" 'a'), 1),
    (.recordPayment (hashedPayment "second" 'A'), 2)]

/-- One hash is settled twice when it is spelled in both cases. -/
theorem hash_settled_twice :
    letI := exampleJson
    ∃ labels after, LedgerRun Db.fresh labels after ∧ ¬ HashesIdentify after :=
  ⟨_, _, @replay_run exampleJson hashedCalls Db.fresh, by decide +kernel⟩

def distinctCalls : List (LedgerCall × Int) :=
  [(.recordPayment (hashedPayment "first" 'a'), 1),
    (.recordPayment (hashedPayment "second" 'b'), 2),
    (.recordPayment { hashedPayment "third" 'A' with amountMsat := 1500 }, 3)]

theorem source_of_labelsOf [SerdeJson] {calls : List (LedgerCall × Int)} {db source : Db}
    {earlier later : List LedgerLabel} {label : LedgerLabel}
    (split : labelsOf calls db = earlier ++ label :: later)
    (reached : LedgerRun db earlier source) :
    ∃ before after, calls = before ++ (label.call, label.now) :: after ∧
      source = replay before db := by
  have labelled : ∀ (calls : List (LedgerCall × Int)) (db : Db),
      (labelsOf calls db).map (fun label => (label.call, label.now)) = calls := by
    intro calls
    induction calls with
    | nil => exact fun _ => rfl
    | cons head rest induction =>
        intro db
        rw [labelsOf, List.map_cons, induction]
  refine ⟨_, later.map fun label => (label.call, label.now), ?_, run_replay reached⟩
  rw [← labelled calls db, split, List.map_append, List.map_cons]

theorem payment_hashes_identify_example :
    letI := exampleJson
    ∃ labels after, LedgerRun Db.fresh labels after ∧
      after.settledPayments.rows.map SettledPaymentRow.sourceId = ["first", "second"] ∧
      HashesIdentify after := by
  let := exampleJson
  have run := replay_run distinctCalls Db.fresh
  refine ⟨_, _, run, by decide +kernel, (payment_hashes_identify run).mpr ?_⟩
  rintro earlier label later source split reached ⟨payment, isCall, respells⟩
  rcases source_of_labelsOf split reached with ⟨before, after, isCalls, rfl⟩
  rw [isCall] at isCalls
  rcases before with _ | ⟨first, _ | ⟨second, _ | ⟨third, rest⟩⟩⟩
  · rcases respells.respelled with ⟨row, member, _⟩
    cases member
  · simp only [distinctCalls, List.cons_append, List.nil_append, List.cons.injEq, Prod.mk.injEq,
      LedgerCall.recordPayment.injEq] at isCalls
    rcases isCalls with ⟨rfl, ⟨rfl, _⟩, _⟩
    have different : ∀ row ∈ (replay [(LedgerCall.recordPayment (hashedPayment "first" 'a'),
        (1 : Int))] Db.fresh).settledPayments.rows, ∀ other ∈ row.paymentHash,
        ∀ hash ∈ (hashedPayment "second" 'b').paymentHash, ¬ SameBytes other hash := by
      decide +kernel
    rcases respells.respelled with ⟨row, member, hash, isHash, other, isOther, sameBytes⟩
    exact different row member other isOther hash isHash sameBytes
  · simp only [distinctCalls, List.cons_append, List.nil_append, List.cons.injEq, Prod.mk.injEq,
      LedgerCall.recordPayment.injEq] at isCalls
    rcases isCalls with ⟨_, _, ⟨rfl, _⟩, _⟩
    have aligned := (validatePayment_creditable respells.accepted.valid
      respells.accepted.bounded).aligned
    cases aligned
  · have lengths := congrArg List.length isCalls
    simp only [distinctCalls, List.length_cons, List.length_nil, List.length_append] at lengths
    omega

end LightningGoats
