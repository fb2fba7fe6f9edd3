import LightningGoats.Ledger.Changes

/-! # Recorded receive requests

The hashes of a receive request are stored in lower case. A request is compared
with the stored one as it is spelled.
-/

namespace LightningGoats

open Outcome Relational

theorem isUpper_toLower (character : Char) : character.toLower.isUpper = false := by
  delta Char.isUpper Char.toLower
  split <;> grind [UInt32.toNat_add, Char.toNat_val, UInt32.le_iff_toNat_le]

theorem toLower_eq_self {character : Char} (notUpper : character.isUpper = false) :
    character.toLower = character := by
  delta Char.isUpper at notUpper
  exact dif_neg (of_decide_eq_false notUpper)

theorem toLower_ne_zero {character : Char} (nonzero : character ≠ '\x00') :
    character.toLower ≠ '\x00' := by
  cases upper : character.isUpper with
  | false =>
    rw [toLower_eq_self upper]
    exact nonzero
  | true =>
    intro zero
    have inRange := of_decide_eq_true upper
    have raised : character.toLower.val = character.val + ('a'.val - 'A'.val) :=
      congrArg Char.val (dif_pos inRange)
    have value := congrArg UInt32.toNat raised
    rw [zero, UInt32.toNat_add] at value
    simp only [ge_iff_le, UInt32.le_iff_toNat_le] at inRange
    simp at inRange value
    omega

@[simp] theorem toAsciiLowercase_idem (text : String) :
    toAsciiLowercase (toAsciiLowercase text) = toAsciiLowercase text := by
  simp only [toAsciiLowercase, String.map_map]
  congr 1
  funext character
  exact toLower_eq_self (isUpper_toLower character)

namespace StoredStrikeReceiveRequest

def lowercased (request : StoredStrikeReceiveRequest) : StoredStrikeReceiveRequest :=
  { request with
    descriptionHash := toAsciiLowercase request.descriptionHash
    paymentHash := toAsciiLowercase request.paymentHash }

@[simp] theorem lowercased_receiveRequestId (request : StoredStrikeReceiveRequest) :
    request.lowercased.receiveRequestId = request.receiveRequestId := rfl

@[simp] theorem lowercased_lowercased (request : StoredStrikeReceiveRequest) :
    request.lowercased.lowercased = request.lowercased := by
  simp [lowercased]

structure Accepted (request : StoredStrikeReceiveRequest) : Prop where
  descriptionHash : isHex32 request.descriptionHash = true
  paymentHash : isHex32 request.paymentHash = true
  addressUser : isLightningUser request.addressUser = true
  creditPool : isLightningUser request.creditPool = true
  nonzero : request.amountMsat ≠ 0
  invoice : request.invoice ≠ "" ∧ request.invoice.utf8ByteSize ≤ 8192
  bounded : request.amountMsat ≤ maxAccountingUnits

end StoredStrikeReceiveRequest

inductive Requests (request : StoredStrikeReceiveRequest) : Db → Db → Prop
  | intro {db : Db} {now : Int}
      (absent : findRequest request.receiveRequestId db = none)
      (fresh : db.strikeReceiveRequests.Fresh ⟨request.lowercased, now⟩) :
      Requests request db { db with
        strikeReceiveRequests := db.strikeReceiveRequests.insert _ fresh }

theorem Requests.absent {request : StoredStrikeReceiveRequest} {before after : Db}
    (inserts : Requests request before after) :
    findRequest request.receiveRequestId before = none := by
  cases inserts with
  | intro absent => exact absent

theorem isHexDigit_utf8Size {character : Char} (hex : isHexDigit character = true) :
    character.utf8Size = 1 := by
  have small : character.val.toNat ≤ 127 := by
    simp only [isHexDigit, Char.isDigit, Bool.or_eq_true, Bool.and_eq_true, decide_eq_true_eq,
      Char.le_def, UInt32.le_iff_toNat_le] at hex
    rcases hex with (digit | lower) | upper
    · exact Nat.le_trans digit.2 (by decide)
    · exact Nat.le_trans lower.2 (by decide)
    · exact Nat.le_trans upper.2 (by decide)
  rw [Char.utf8Size, if_pos]
  exact UInt32.le_iff_toNat_le.mpr small

theorem isHexDigit_toLower {character : Char} (hex : isHexDigit character = true) :
    character.toLower ≠ '\x00' := by
  apply toLower_ne_zero
  intro zero
  rw [zero] at hex
  exact absurd hex (by decide)

section Calls

variable {request : StoredStrikeReceiveRequest} {now : Int} {before after : Db}

theorem recordStrikeReceiveRequest_cases
    (ran : recordStrikeReceiveRequest request now before = .ok ((), after)) :
    request.Accepted ∧
      ((after = before ∧ findRequest request.receiveRequestId before = some request) ∨
        Requests request before after) := by
  simp only [recordStrikeReceiveRequest, bind_eq_ok, validateHex32, ensure_eq_ok,
    validateUser_eq_ok, toI64_eq_ok] at ran
  rcases ran with ⟨_, descriptionHash, _, paymentHash, _, addressUser, _, creditPool, _, nonzero,
    _, invoice, _, ⟨bounded, _⟩, ran⟩
  refine ⟨⟨descriptionHash, paymentHash, addressUser, creditPool, nonzero, invoice, bounded⟩, ?_⟩
  split at ran
  · rename_i existing found
    simp only [bind_eq_ok, ensure_eq_ok, pure_eq_ok, Prod.mk.injEq, true_and] at ran
    rcases ran with ⟨_, same, rfl⟩
    exact .inl ⟨rfl, same ▸ found⟩
  · rename_i absent
    simp only [bind_eq_ok, pure_eq_ok, Prod.mk.injEq, true_and] at ran
    rcases ran with ⟨⟨table, rowid⟩, inserted, rfl⟩
    rcases insertRow_eq_ok.mp inserted with ⟨_, _, fresh, rfl⟩
    exact .inr (.intro absent fresh)

theorem recordStrikeReceiveRequest_again (accepted : request.Accepted)
    (found : findRequest request.receiveRequestId before = some request) :
    recordStrikeReceiveRequest request now before = .ok ((), before) := by
  have amount : toI64 request.amountMsat "Strike amount_msat" = .ok (request.amountMsat : Int) :=
    toI64_eq_ok.mpr ⟨accepted.bounded, rfl⟩
  rw [recordStrikeReceiveRequest, validateHex32, validateHex32,
    ensure_of accepted.descriptionHash, ok_bind, ensure_of accepted.paymentHash, ok_bind,
    validateUser, ensure_of accepted.addressUser, ok_bind, validateUser,
    ensure_of accepted.creditPool, ok_bind, ensure_of accepted.nonzero, ok_bind,
    ensure_of accepted.invoice, ok_bind, amount, ok_bind, found]
  simp only [ensure_of]
  rfl

theorem sqlLength_toAsciiLowercase {hash : String} (hex : isHex32 hash = true) :
    Text.sqlLength (toAsciiLowercase hash) = 64 := by
  rw [isHex32, Bool.and_eq_true, decide_eq_true_eq, List.all_eq_true] at hex
  have oneByte : ∀ character ∈ hash.toList, character.utf8Size = 1 := fun character member =>
    isHexDigit_utf8Size (hex.2 character member)
  have zeroFree : '\x00' ∉ (toAsciiLowercase hash).toList := by
    rw [toAsciiLowercase, String.toList_map, List.mem_map]
    rintro ⟨character, member, zero⟩
    exact isHexDigit_toLower (hex.2 character member) zero
  rw [Text.sqlLength_eq zeroFree, toAsciiLowercase, String.toList_map, List.length_map,
    ← Text.utf8ByteSize_eq_length oneByte, hex.1]

/-- A request that passes the checks is recorded unless another has its
identifier or its payment hash. -/
theorem recordStrikeReceiveRequest_new (accepted : request.Accepted)
    (zeroFree : '\x00' ∉ request.invoice.toList)
    (absent : findRequest request.receiveRequestId before = none)
    (fresh : before.strikeReceiveRequests.Fresh ⟨request.lowercased, now⟩) :
    recordStrikeReceiveRequest request now before = .ok ((), { before with
      strikeReceiveRequests := before.strikeReceiveRequests.insert _ fresh }) := by
  have amount : toI64 request.amountMsat "Strike amount_msat" = .ok (request.amountMsat : Int) :=
    toI64_eq_ok.mpr ⟨accepted.bounded, rfl⟩
  have valid : StrikeReceiveRequestRow.Valid ⟨request.lowercased, now⟩ :=
    ⟨fitsColumn_user accepted.addressUser, fitsColumn_user accepted.creditPool,
      Nat.pos_of_ne_zero accepted.nonzero, sqlLength_toAsciiLowercase accepted.descriptionHash,
      sqlLength_toAsciiLowercase accepted.paymentHash,
      fitsColumn_of_bytes accepted.invoice.1 accepted.invoice.2 zeroFree⟩
  have inserted : insertRow "strike_receive_requests" StrikeReceiveRequestRow.Valid
      before.strikeReceiveRequests ⟨request.lowercased, now⟩ = .ok (_, _) :=
    insertRow_eq_ok.mpr ⟨valid, rfl, fresh, rfl⟩
  rw [recordStrikeReceiveRequest, validateHex32, validateHex32,
    ensure_of accepted.descriptionHash, ok_bind, ensure_of accepted.paymentHash, ok_bind,
    validateUser, ensure_of accepted.addressUser, ok_bind, validateUser,
    ensure_of accepted.creditPool, ok_bind, ensure_of accepted.nonzero, ok_bind,
    ensure_of accepted.invoice, ok_bind, amount, ok_bind, absent]
  change (do
    let inserted ← insertRow "strike_receive_requests" StrikeReceiveRequestRow.Valid
      before.strikeReceiveRequests ⟨request.lowercased, now⟩
    return ((), { before with strikeReceiveRequests := inserted.1 })) = _
  rw [inserted, ok_bind]
  rfl

theorem recordStrikeReceiveRequest_conflict {existing : StoredStrikeReceiveRequest}
    (found : findRequest request.receiveRequestId before = some existing)
    (different : existing ≠ request) :
    ∃ error, recordStrikeReceiveRequest request now before = .error error := by
  cases ran : recordStrikeReceiveRequest request now before with
  | error error => exact ⟨error, rfl⟩
  | ok outcome =>
      rcases outcome with ⟨⟨⟩, committed⟩
      rcases recordStrikeReceiveRequest_cases ran with ⟨_, ⟨_, same⟩ | inserts⟩
      · exact absurd (Option.some.inj (found.symm.trans same)) different
      · cases found.symm.trans inserts.absent

theorem enqueueStrikeWork_requests {key : String} {event : StrikeCompletedReceiveEvent}
    (ran : enqueueStrikeWork key event now before = .ok ((), after)) :
    after.strikeReceiveRequests = before.strikeReceiveRequests := by
  unfold enqueueStrikeWork at ran
  split at ran
  · simp only [bind_eq_ok, pure_eq_ok, Prod.mk.injEq, true_and] at ran
    rcases ran with ⟨_, _, rfl⟩
    rfl
  · simp only [bind_eq_ok, pure_eq_ok, Prod.mk.injEq, true_and] at ran
    rcases ran with ⟨_, _, _, _, rfl⟩
    rfl

end Calls

/-! ## Runs -/

section Runs

variable {request : StoredStrikeReceiveRequest} {before after : Db}

theorem Requests.findRequest_of (inserts : Requests request before after) (id : Uuid) :
    findRequest id after = (findRequest id before).or
      (if request.receiveRequestId = id then some request.lowercased else none) := by
  cases inserts with
  | intro absent fresh =>
    simp only [findRequest, Table.find?_rows_insert, Option.map_or]
    congr 1
    by_cases same : request.receiveRequestId = id
    · simp [same]
    · simp [same]

def RequestsLowercased (db : Db) : Prop :=
  ∀ row ∈ db.strikeReceiveRequests.rows, row.request.lowercased = row.request

structure StrikeKept (before after : Db) : Prop where
  requests : after.strikeReceiveRequests = before.strikeReceiveRequests
  inbox : after.strikeInbox = before.strikeInbox
  scans : after.strikeRecoveryScan = before.strikeRecoveryScan

theorem StrikeKept.refl (db : Db) : StrikeKept db db :=
  ⟨rfl, rfl, rfl⟩

theorem StrikeKept.trans {middle : Db} (first : StrikeKept before middle)
    (second : StrikeKept middle after) : StrikeKept before after :=
  ⟨second.requests.trans first.requests, second.inbox.trans first.inbox,
    second.scans.trans first.scans⟩

theorem Quiet.strikeKept {scope : Scope} (quiet : Quiet scope before after)
    (other : scope ≠ .strike) : StrikeKept before after := by
  cases quiet with
  | registers registers => cases registers; exact ⟨rfl, rfl, rfl⟩
  | holds _ holds => cases holds; exact ⟨rfl, rfl, rfl⟩
  | stores stores => cases stores; exact ⟨rfl, rfl, rfl⟩
  | unlocks => exact ⟨rfl, rfl, rfl⟩
  | grantsDust grants => cases grants; exact ⟨rfl, rfl, rfl⟩
  | begins begins => cases begins; exact ⟨rfl, rfl, rfl⟩
  | moves moves => cases moves; exact ⟨rfl, rfl, rfl⟩
  | cools => exact ⟨rfl, rfl, rfl⟩
  | logs logs => cases logs; exact ⟨rfl, rfl, rfl⟩
  | strike => exact absurd rfl other

theorem Booking.strikeKept {scope : Scope} (booking : Booking scope before after) :
    StrikeKept before after := by
  cases booking with
  | settles settles => cases settles; exact ⟨rfl, rfl, rfl⟩
  | grants grants => cases grants; exact ⟨rfl, rfl, rfl⟩
  | debits debits => cases debits; exact ⟨rfl, rfl, rfl⟩
  | announces announces => cases announces; exact ⟨rfl, rfl, rfl⟩

theorem Effect.strikeKept {scope : Scope} (effect : Effect scope before after)
    (other : scope ≠ .strike) : StrikeKept before after :=
  @Effect.relates scope StrikeKept StrikeKept.refl StrikeKept.trans
    (fun quiet => quiet.strikeKept other) Booking.strikeKept _ _ effect

variable [SerdeJson] {label : LedgerLabel} {labels : List LedgerLabel}

theorem requests_of_step (step : LedgerStep before label after) :
    after.strikeReceiveRequests = before.strikeReceiveRequests ∨
      ∃ request, label.call = .recordStrikeReceiveRequest request ∧
        Requests request before after := by
  rcases ledgerStep_cases step with ⟨_, _, rfl⟩ | ⟨response, _, ran⟩
  · exact .inl rfl
  by_cases other : label.call.scope ≠ .strike
  · exact .inl ((body_effect ran).strikeKept other).requests
  rcases label with ⟨call, now, result⟩
  cases call
  all_goals
    first
      | (refine absurd ?_ other; intro same; cases same; done)
      | (simp only [LedgerCall.body, transact_eq_ok] at ran; rcases ran with ⟨_, ran, _⟩)
  case recordStrikeReceiveRequest =>
    rcases (recordStrikeReceiveRequest_cases ran).2 with ⟨rfl, _⟩ | inserts
    · exact .inl rfl
    · exact .inr ⟨_, rfl, inserts⟩
  case enqueueStrikeEvent =>
    exact .inl (enqueueStrikeWork_requests ran)
  case enqueueStrikeWork =>
    exact .inl (enqueueStrikeWork_requests ran)
  case finishStrikeWork => cases ran; exact .inl rfl
  case retryStrikeWork => cases ran; exact .inl rfl
  case recordStrikeScan =>
    simp only [recordStrikeScan, bind_eq_ok, pure_eq_ok, Prod.mk.injEq, true_and] at ran
    rcases ran with ⟨_, _, rfl⟩
    exact .inl rfl

theorem RequestsLowercased.of_step (lowercased : RequestsLowercased before)
    (step : LedgerStep before label after) : RequestsLowercased after := by
  rcases requests_of_step step with unchanged | ⟨request, _, inserts⟩
  · intro row member
    rw [unchanged] at member
    exact lowercased row member
  · cases inserts with
    | intro _ fresh =>
      intro row member
      rcases (Table.mem_rows_insert fresh).mp member with old | rfl
      · exact lowercased row old
      · exact request.lowercased_lowercased

theorem RequestsLowercased.of_run (run : LedgerRun .fresh labels after) :
    RequestsLowercased after :=
  run.invariant RequestsLowercased.of_step (by
    intro row member
    cases member)

omit [SerdeJson] in
theorem RequestsLowercased.found {id : Uuid} {existing : StoredStrikeReceiveRequest}
    (lowercased : RequestsLowercased before) (found : findRequest id before = some existing) :
    existing.lowercased = existing := by
  rcases Option.map_eq_some_iff.mp found with ⟨row, selected, rfl⟩
  exact lowercased row (List.mem_of_find?_eq_some selected)

theorem found_of_step {id : Uuid} {existing : StoredStrikeReceiveRequest}
    (found : findRequest id before = some existing) (step : LedgerStep before label after) :
    findRequest id after = some existing := by
  rcases requests_of_step step with unchanged | ⟨request, _, inserts⟩
  · rw [findRequest, unchanged]
    exact found
  · rw [inserts.findRequest_of, found, Option.some_or]

theorem found_of_run {id : Uuid} {existing : StoredStrikeReceiveRequest}
    (found : findRequest id before = some existing) (run : LedgerRun before labels after) :
    findRequest id after = some existing := by
  induction run with
  | nil => exact found
  | cons step _ induction => exact induction (found_of_step found step)

theorem records_of_ran {now : Int}
    (ran : recordStrikeReceiveRequest request now before = .ok ((), after)) :
    LedgerStep before ⟨.recordStrikeReceiveRequest request, now, .ok .done⟩ after := by
  have body : (LedgerCall.recordStrikeReceiveRequest request).body now before =
      .ok (.done, after) := by
    simp only [LedgerCall.body, transact_eq_ok]
    exact ⟨(), ran, trivial⟩
  rw [LedgerStep, execute, body]

/-- A request that is recorded is found in lower case, whether it was new or not. -/
theorem found_of_recorded {now : Int} (lowercased : RequestsLowercased before)
    (step : LedgerStep before ⟨.recordStrikeReceiveRequest request, now, .ok .done⟩ after) :
    request.Accepted ∧ findRequest request.receiveRequestId after = some request.lowercased := by
  rcases ledgerStep_cases step with ⟨_, failed, _⟩ | ⟨_, _, ran⟩
  · cases failed
  simp only [LedgerCall.body, transact_eq_ok] at ran
  rcases ran with ⟨_, ran, _⟩
  rcases recordStrikeReceiveRequest_cases ran with ⟨accepted, ⟨rfl, found⟩ | inserts⟩
  · exact ⟨accepted, by rw [found, lowercased.found found]⟩
  · refine ⟨accepted, ?_⟩
    rw [inserts.findRequest_of, inserts.absent, Option.none_or, if_pos rfl]

end Runs

/-! ## Recording again -/

section Again

variable [SerdeJson] {request : StoredStrikeReceiveRequest} {db : Db}

/-- Recording the request again changes nothing, it is read back in lower case,
and a request with its identifier and other data is refused. -/
structure RequestKept (request : StoredStrikeReceiveRequest) (db : Db) : Prop where
  repeats : ∀ now, execute (.recordStrikeReceiveRequest request) now db = (.ok .done, db)
  reads : ∀ now, execute (.strikeReceiveRequest request.receiveRequestId) now db =
    (.ok (.request (some request.lowercased)), db)
  refuses : ∀ other now, other.receiveRequestId = request.receiveRequestId →
    other.lowercased ≠ request.lowercased →
    ∃ error, execute (.recordStrikeReceiveRequest other) now db = (.error error, db)

theorem execute_reads (found : findRequest request.receiveRequestId db = some request.lowercased)
    (now : Int) : execute (.strikeReceiveRequest request.receiveRequestId) now db =
      (.ok (.request (some request.lowercased)), db) := by
  simp only [execute, LedgerCall.body, readOnly, strikeReceiveRequest, found]
  rfl

theorem execute_conflicts {other : StoredStrikeReceiveRequest}
    (found : findRequest request.receiveRequestId db = some request.lowercased) (now : Int)
    (same : other.receiveRequestId = request.receiveRequestId)
    (different : other.lowercased ≠ request.lowercased) :
    ∃ error, execute (.recordStrikeReceiveRequest other) now db = (.error error, db) := by
  have otherwise : request.lowercased ≠ other := by
    rintro rfl
    exact different request.lowercased_lowercased
  rcases @recordStrikeReceiveRequest_conflict other now db _ (same ▸ found) otherwise with
    ⟨error, failed⟩
  refine ⟨error, ?_⟩
  simp only [execute, LedgerCall.body, transact_error.mpr failed]

theorem execute_repeats (accepted : request.Accepted)
    (found : findRequest request.receiveRequestId db = some request.lowercased) (now : Int) :
    execute (.recordStrikeReceiveRequest request) now db = (.ok .done, db) ↔
      request.lowercased = request := by
  constructor
  · intro repeated
    have step : LedgerStep db ⟨.recordStrikeReceiveRequest request, now, .ok .done⟩ db := repeated
    rcases ledgerStep_cases step with ⟨_, failed, _⟩ | ⟨_, _, ran⟩
    · cases failed
    simp only [LedgerCall.body, transact_eq_ok] at ran
    rcases ran with ⟨_, ran, _⟩
    rcases (recordStrikeReceiveRequest_cases ran).2 with ⟨_, same⟩ | inserts
    · exact Option.some.inj (found.symm.trans same)
    · cases found.symm.trans inserts.absent
  · intro lowercase
    rw [lowercase] at found
    exact records_of_ran (recordStrikeReceiveRequest_again accepted found)

/-- A recorded request is kept, in every later state, exactly if its hashes are
spelled in lower case. -/
theorem recorded_requests_kept {earlier later : List LedgerLabel} {before recorded after : Db}
    {now : Int} (history : LedgerRun .fresh earlier before)
    (records : LedgerStep before ⟨.recordStrikeReceiveRequest request, now, .ok .done⟩ recorded)
    (continues : LedgerRun recorded later after) :
    RequestKept request after ↔ request.lowercased = request := by
  rcases found_of_recorded (.of_run history) records with ⟨accepted, found⟩
  have kept := found_of_run found continues
  constructor
  · intro keeps
    exact (execute_repeats accepted kept 0).mp (keeps.repeats 0)
  · intro lowercase
    exact {
      repeats := fun now => (execute_repeats accepted kept now).mpr lowercase
      reads := execute_reads kept
      refuses := fun other now => execute_conflicts kept now }

end Again

/-! ## Two spellings -/

def exampleReceiveRequest (digit : Char) : StoredStrikeReceiveRequest where
  receiveRequestId := ⟨7⟩
  addressUser := "dexter"
  creditPool := "herd"
  amountMsat := 2340000
  descriptionHash := String.ofList (List.replicate 64 digit)
  paymentHash := String.ofList (List.replicate 64 digit)
  invoice := "lnbc2340n1test"
  createdProvider := none

theorem exampleReceiveRequest_accepted {digit : Char} (hex : isHexDigit digit = true) :
    (exampleReceiveRequest digit).Accepted := by
  have isHash : isHex32 (String.ofList (List.replicate 64 digit)) = true := by
    rw [isHex32, Text.utf8ByteSize_eq_sum, String.toList_ofList, List.map_replicate,
      isHexDigit_utf8Size hex, List.all_replicate, hex]
    rfl
  exact {
    descriptionHash := isHash
    paymentHash := isHash
    addressUser := show isLightningUser "dexter" = true by decide +kernel
    creditPool := show isLightningUser "herd" = true by decide +kernel
    nonzero := show 2340000 ≠ 0 by decide
    invoice := show "lnbc2340n1test" ≠ "" ∧ "lnbc2340n1test".utf8ByteSize ≤ 8192 by
      decide +kernel
    bounded := show 2340000 ≤ maxAccountingUnits by decide }

theorem exampleReceiveRequest_recorded [SerdeJson] {digit : Char} (hex : isHexDigit digit = true) :
    ∃ recorded, LedgerStep Db.fresh
      ⟨.recordStrikeReceiveRequest (exampleReceiveRequest digit), 1, .ok .done⟩ recorded := by
  have ran := @recordStrikeReceiveRequest_new (exampleReceiveRequest digit) 1 Db.fresh
    (exampleReceiveRequest_accepted hex) (show '\x00' ∉ "lnbc2340n1test".toList by decide +kernel) rfl
    fun row member => by cases member
  exact ⟨_, records_of_ran ran⟩

/-- A request whose description hash is spelled in capitals is refused when it
is recorded again. -/
theorem capitals_refused :
    letI := exampleJson
    ∃ recorded, LedgerStep Db.fresh
        ⟨.recordStrikeReceiveRequest (exampleReceiveRequest 'A'), 1, .ok .done⟩ recorded ∧
      ¬ RequestKept (exampleReceiveRequest 'A') recorded := by
  let := exampleJson
  have isHex : isHexDigit 'A' = true := by decide
  rcases @exampleReceiveRequest_recorded exampleJson 'A' isHex with ⟨recorded, step⟩
  rcases found_of_recorded (.of_run (.nil _)) step with ⟨accepted, found⟩
  refine ⟨recorded, step, fun keeps => ?_⟩
  have lowercase := (execute_repeats accepted found 2).mp (keeps.repeats 2)
  have spelled := congrArg (fun request => request.descriptionHash.toList.head?) lowercase
  simp [StoredStrikeReceiveRequest.lowercased, toAsciiLowercase, exampleReceiveRequest] at spelled

def afterRequest : List (LedgerCall × Int) :=
  [(.enqueueStrikeEvent ⟨⟨1⟩, ⟨7⟩, ⟨9⟩⟩, 2),
    (.recordStrikeReceiveRequest { exampleReceiveRequest 'b' with amountMsat := 1000 }, 3),
    (.recordPayment examplePayment, 4)]

theorem recorded_requests_kept_example :
    letI := exampleJson
    ∃ recorded after, LedgerStep Db.fresh
        ⟨.recordStrikeReceiveRequest (exampleReceiveRequest 'a'), 1, .ok .done⟩ recorded ∧
      LedgerRun recorded (labelsOf afterRequest recorded) after ∧
      RequestKept (exampleReceiveRequest 'a') after := by
  let := exampleJson
  have isHex : isHexDigit 'a' = true := by decide
  rcases @exampleReceiveRequest_recorded exampleJson 'a' isHex with ⟨recorded, step⟩
  have later := replay_run afterRequest recorded
  refine ⟨recorded, _, step, later, (recorded_requests_kept (.nil _) step later).mpr ?_⟩
  have lowercase : toAsciiLowercase (String.ofList (List.replicate 64 'a')) =
      String.ofList (List.replicate 64 'a') := by
    rw [toAsciiLowercase, ← String.toList_inj, String.toList_map, String.toList_ofList,
      List.map_replicate]
    rfl
  rw [StoredStrikeReceiveRequest.lowercased, exampleReceiveRequest, lowercase]

end LightningGoats
