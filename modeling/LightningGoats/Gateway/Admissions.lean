import LightningGoats.Foundation.Execution
import LightningGoats.Gateway.Store

/-! # Decisions of the gateway store

Whatever the transactions of the store do, a request UUID goes from undecided
to refused, or from undecided to reserved to acknowledged, and never back.
-/

namespace LightningGoats

open Outcome Relational

/-! ## Decisions -/

inductive Decision
  | undecided
  | refused (refusal : FeedRefusal)
  | reserved
  | acknowledged
  deriving DecidableEq, Repr

namespace Decision

inductive Develops : Decision → Decision → Prop
  | same (decision : Decision) : Develops decision decision
  | refuses (refusal : FeedRefusal) : Develops .undecided (.refused refusal)
  | reserves : Develops .undecided .reserved
  | acknowledges (decision : Decision) (isOpen : decision = .undecided ∨ decision = .reserved) :
      Develops decision .acknowledged

theorem Develops.trans {first second third : Decision} (left : Develops first second)
    (right : Develops second third) : Develops first third := by
  cases left with
  | same => exact right
  | refuses refusal =>
      cases right with
      | same => exact .refuses refusal
      | acknowledges _ isOpen => rcases isOpen with impossible | impossible <;> cases impossible
  | reserves =>
      cases right with
      | same => exact .reserves
      | acknowledges => exact .acknowledges _ (.inl rfl)
  | acknowledges _ isOpen =>
      cases right with
      | same => exact .acknowledges _ isOpen
      | acknowledges => exact .acknowledges _ isOpen

theorem Develops.of_refused {refusal : FeedRefusal} {later : Decision}
    (develops : Develops (.refused refusal) later) : later = .refused refusal := by
  cases develops with
  | same => rfl
  | acknowledges _ isOpen => rcases isOpen with impossible | impossible <;> cases impossible

theorem Develops.of_acknowledged {later : Decision}
    (develops : Develops .acknowledged later) : later = .acknowledged := by
  cases develops <;> rfl

end Decision

def decision (requestId : Uuid) (db : GatewayDb) : Decision :=
  match statusStr requestId db, refusalJson requestId db with
  | some .pending, _ => .reserved
  | some .acknowledged, _ => .acknowledged
  | none, some refusal => .refused refusal
  | none, none => .undecided

def BeginRequestOutcome.decision : BeginRequestOutcome → Decision
  | new => .reserved
  | pending => .reserved
  | acknowledged => .acknowledged
  | notDispatched refusal => .refused refusal

section Reads

variable {requestId other : Uuid} {db : GatewayDb}

theorem statusStr_eq_some {status : RequestStatus} :
    statusStr requestId db = some status ↔
      ∃ row ∈ db.feederRequests.rows, row.requestId = requestId ∧ row.status = status := by
  rw [statusStr, Option.map_eq_some_iff]
  constructor
  · rintro ⟨row, found, isStatus⟩
    exact ⟨row, List.mem_of_find?_eq_some found, by simpa using List.find?_some found, isStatus⟩
  · rintro ⟨row, member, sameId, isStatus⟩
    refine ⟨row, ?_, isStatus⟩
    refine db.feederRequests.find?_eq_some_of_clash _ member (by simp [sameId])
      fun left right isLeft isRight => ?_
    exact sameKey_iff.mpr ⟨_, congrArg some (decide_eq_true_eq.mp isLeft),
      congrArg some (decide_eq_true_eq.mp isRight)⟩

theorem statusStr_eq_none :
    statusStr requestId db = none ↔
      ∀ row ∈ db.feederRequests.rows, row.requestId ≠ requestId := by
  simp [statusStr]

theorem refusalJson_eq_some {refusal : FeedRefusal} :
    refusalJson requestId db = some refusal ↔
      ∃ row ∈ db.feederRefusals.rows, row.requestId = requestId ∧ row.refusal = refusal := by
  rw [refusalJson, Option.map_eq_some_iff]
  constructor
  · rintro ⟨row, found, isRefusal⟩
    exact ⟨row, List.mem_of_find?_eq_some found, by simpa using List.find?_some found, isRefusal⟩
  · rintro ⟨row, member, sameId, isRefusal⟩
    refine ⟨row, ?_, isRefusal⟩
    refine db.feederRefusals.find?_eq_some_of_clash _ member (by simp [sameId])
      fun left right isLeft isRight => ?_
    exact sameKey_iff.mpr ⟨_, congrArg some (decide_eq_true_eq.mp isLeft),
      congrArg some (decide_eq_true_eq.mp isRight)⟩

theorem refusalJson_eq_none :
    refusalJson requestId db = none ↔
      ∀ row ∈ db.feederRefusals.rows, row.requestId ≠ requestId := by
  simp [refusalJson]

theorem decision_reserved :
    decision requestId db = .reserved ↔ statusStr requestId db = some .pending := by
  unfold decision
  split <;> simp_all

theorem decision_acknowledged :
    decision requestId db = .acknowledged ↔ statusStr requestId db = some .acknowledged := by
  unfold decision
  split <;> simp_all

theorem decision_refused {refusal : FeedRefusal} :
    decision requestId db = .refused refusal ↔
      statusStr requestId db = none ∧ refusalJson requestId db = some refusal := by
  unfold decision
  split <;> simp_all

theorem decision_undecided :
    decision requestId db = .undecided ↔
      statusStr requestId db = none ∧ refusalJson requestId db = none := by
  unfold decision
  split <;> simp_all

end Reads

/-! ## Transactions -/

inductive AdmissionChange
  | none
  | refuses (requestId : Uuid) (refusal : FeedRefusal)
  | reserves (requestId : Uuid) (now : Int)
  | acknowledges (requestId : Uuid) (now : Int)
  deriving DecidableEq

inductive Decides : GatewayDb → AdmissionChange → GatewayDb → Prop
  | none (db : GatewayDb) : Decides db .none db
  | refuses {db : GatewayDb} {requestId : Uuid} {refusal : FeedRefusal}
      (undecided : decision requestId db = .undecided)
      (fresh : db.feederRefusals.Fresh ⟨requestId, refusal⟩) :
      Decides db (.refuses requestId refusal)
        { db with feederRefusals := db.feederRefusals.insert _ fresh }
  | reserves {db : GatewayDb} {requestId : Uuid} {now : Int}
      (undecided : decision requestId db = .undecided)
      (idle : ∀ row ∈ db.feederRequests.rows, row.status = .acknowledged)
      (fresh : db.feederRequests.Fresh ⟨requestId, .pending, now, now⟩) :
      Decides db (.reserves requestId now) { db with
        feederRequests := db.feederRequests.insert _ fresh
        feederRequestEvents := db.feederRequestEvents ++ [⟨requestId, .reserved⟩] }
  | acknowledges {db : GatewayDb} {requestId : Uuid} {now : Int}
      (reserved : decision requestId db = .reserved) :
      Decides db (.acknowledges requestId now) (acknowledgeRequest requestId now db).2

structure WithinLimits (limits : AdmissionLimits) (now : Int) (db : GatewayDb) : Prop where
  spaced : ∀ row ∈ db.feederRequests.rows, row.updatedAt + limits.minInterval ≤ now
  capacity : (withinHour now (db.feederRequests.rows.map FeederRequest.updatedAt)).length <
    limits.maxPerHour

theorem admissionDelay_le_zero {limits : AdmissionLimits} {now delay : Int} {updates : List Int}
    (positive : 1 ≤ limits.maxPerHour) (delayed : admissionDelay limits now updates = .ok delay)
    (noDelay : ¬ 0 < delay) :
    (∀ updatedAt ∈ updates, updatedAt + limits.minInterval ≤ now) ∧
      (withinHour now updates).length < limits.maxPerHour := by
  simp only [admissionDelay, bind_eq_ok, pure_eq_ok] at delayed
  rcases delayed with ⟨sinceLast, last, rfl⟩
  have sinceLastLe : sinceLast ≤ 0 := by omega
  have capacityLe : capacityDelay limits.maxPerHour now updates ≤ 0 := by omega
  constructor
  · intro updatedAt member
    unfold intervalDelay at last
    split at last
    · rename_i none
      rw [List.max?_eq_none_iff] at none
      rw [none] at member
      cases member
    · rename_i latest isLatest
      have below := (List.max?_eq_some_iff.mp isLatest).2 updatedAt member
      split at last
      · cases last
        omega
      · cases last
  · by_contra full
    unfold capacityDelay at capacityLe
    rw [if_pos (by omega)] at capacityLe
    split at capacityLe
    · rename_i none
      rw [List.min?_eq_none_iff] at none
      rw [none, List.length_nil] at full
      omega
    · rename_i oldest isOldest
      have member := (List.min?_eq_some_iff.mp isOldest).1
      simp only [withinHour, List.mem_filter, decide_eq_true_eq] at member
      omega

section Transactions

variable {requestId : Uuid} {limits : AdmissionLimits} {safetyRefusal : Bool}
  {checkedAt insertedAt now : Int} {before after : GatewayDb} {outcome : BeginRequestOutcome}

/-- A request is answered by its decision, which is taken now if there was none. -/
theorem beginRequest_cases (ran : beginRequest requestId limits safetyRefusal checkedAt
    insertedAt before = .ok (outcome, after)) :
    (outcome ≠ .new ∧ after = before ∧ decision requestId before = outcome.decision) ∨
    (∃ refusal, outcome = .notDispatched refusal ∧
      Decides before (.refuses requestId refusal) after) ∨
    (outcome = .new ∧ safetyRefusal = false ∧ WithinLimits limits checkedAt before ∧
      Decides before (.reserves requestId insertedAt) after) := by
  unfold beginRequest at ran
  simp only [bind_eq_ok, ensure_eq_ok] at ran
  rcases ran with ⟨_, _, _, ⟨_, positive⟩, ran⟩
  split at ran
  · rename_i isStatus
    cases ran
    exact .inl ⟨by simp, rfl, decision_reserved.mpr isStatus⟩
  · rename_i isStatus
    cases ran
    exact .inl ⟨by simp, rfl, decision_acknowledged.mpr isStatus⟩
  · rename_i refusal isStatus isRefusal
    cases ran
    exact .inl ⟨by simp, rfl, decision_refused.mpr ⟨isStatus, isRefusal⟩⟩
  · rename_i isStatus isRefusal
    have undecided := decision_undecided.mpr ⟨isStatus, isRefusal⟩
    simp only [bind_eq_ok] at ran
    rcases ran with ⟨delay, delayed, ran⟩
    split at ran
    · rename_i refusal isNew
      simp only [bind_eq_ok, pure_eq_ok, insertRefusal] at ran
      rcases ran with ⟨refused, inserted, ran⟩
      cases ran
      split at inserted
      · rename_i fresh
        cases inserted
        exact .inr (.inl ⟨refusal, rfl, .refuses undecided fresh⟩)
      · cases inserted
    · rename_i noRefusal
      simp only [bind_eq_ok, pure_eq_ok, insertRequest] at ran
      rcases ran with ⟨admitted, inserted, ran⟩
      cases ran
      unfold newRefusal at noRefusal
      split at noRefusal
      · cases noRefusal
      · rename_i safe
        split at noRefusal
        · cases noRefusal
        · rename_i idle
          split at noRefusal
          · cases noRefusal
          · rename_i noDelay
            have within := admissionDelay_le_zero positive delayed noDelay
            split at inserted
            · rename_i fresh
              cases inserted
              refine .inr (.inr ⟨rfl, by simpa using safe, ⟨?_, within.2⟩,
                .reserves undecided ?_ fresh⟩)
              · intro row member
                exact within.1 _ (List.mem_map_of_mem member)
              · intro row member
                cases isStatus : row.status with
                | acknowledged => rfl
                | pending =>
                    exact absurd (List.any_eq_true.mpr ⟨row, member, by simp [isStatus]⟩) idle
            · cases inserted

theorem acknowledgeRequest_cases {changed : Bool}
    (ran : acknowledgeRequest requestId now before = (changed, after)) :
    (changed = true ∧ Decides before (.acknowledges requestId now) after) ∨
      (changed = false ∧ after = before) := by
  have isAfter : after = (acknowledgeRequest requestId now before).2 := by rw [ran]
  have isChanged : changed = (acknowledgeRequest requestId now before).1 := by rw [ran]
  let affected := before.feederRequests.rows.filter fun row =>
    row.requestId = requestId && row.status = .pending
  by_cases reserved : decision requestId before = .reserved
  · rcases statusStr_eq_some.mp (decision_reserved.mp reserved) with
      ⟨row, member, sameId, isPending⟩
    have one : affected = [row] := by
      refine filter_eq_singleton (before.feederRequests.rows_nodup fun _ => sameKey_iff.mpr
        ⟨_, rfl, rfl⟩) member (by simp [sameId, isPending]) fun other otherMember isOther => ?_
      simp only [Bool.and_eq_true, decide_eq_true_eq] at isOther
      exact before.feederRequests.row_eq_of_clash otherMember member
        (sameKey_iff.mpr ⟨_, rfl, by rw [sameId, isOther.1]⟩)
    have rowsAffected : affected.length = 1 := by rw [one, List.length_singleton]
    refine .inl ⟨?_, isAfter ▸ .acknowledges reserved⟩
    rw [isChanged, acknowledgeRequest]
    exact congrArg Prod.fst (if_pos rowsAffected)
  · have none : ∀ row ∈ before.feederRequests.rows,
        ¬ (row.requestId = requestId ∧ row.status = .pending) := fun row member both =>
      reserved (decision_reserved.mpr (statusStr_eq_some.mpr ⟨row, member, both⟩))
    have rowsAffected : ¬ affected.length = 1 := by
      have empty : affected = [] := by
        refine List.filter_eq_nil_iff.mpr fun row member => ?_
        simpa using none row member
      simp [empty]
    have same : setAcknowledged requestId now before.feederRequests = before.feederRequests :=
      before.feederRequests.update_eq_self _ fun row member => if_neg (none row member)
    refine .inr ⟨?_, ?_⟩
    · rw [isChanged, acknowledgeRequest]
      exact congrArg Prod.fst (if_neg rowsAffected)
    · rw [isAfter, acknowledgeRequest]
      refine (congrArg Prod.snd (if_neg rowsAffected)).trans ?_
      exact congrArg (fun table => { before with feederRequests := table }) same

end Transactions

/-! ## What becomes of decisions -/

def AdmissionChange.decided (requestId : Uuid) (prior : Decision) : AdmissionChange → Decision
  | none => prior
  | refuses other refusal => if other = requestId then .refused refusal else prior
  | reserves other _ => if other = requestId then .reserved else prior
  | acknowledges other _ => if other = requestId then .acknowledged else prior

theorem AdmissionChange.acknowledged_cases {change : AdmissionChange} {requestId : Uuid}
    {prior : Decision} (decided : change.decided requestId prior = .acknowledged) :
    prior = .acknowledged ∨ ∃ now, change = .acknowledges requestId now := by
  cases change with
  | none => exact .inl decided
  | refuses other refusal =>
      rw [AdmissionChange.decided] at decided
      split at decided
      · cases decided
      · exact .inl decided
  | reserves other now =>
      rw [AdmissionChange.decided] at decided
      split at decided
      · cases decided
      · exact .inl decided
  | acknowledges other now =>
      rw [AdmissionChange.decided] at decided
      split at decided
      · rename_i sameId
        exact .inr ⟨now, by rw [sameId]⟩
      · exact .inl decided

section Changes

variable {change : AdmissionChange} {before after : GatewayDb}

theorem refusalJson_insert {requestId : Uuid} {refused : FeederRefusal} {db : GatewayDb}
    (fresh : db.feederRefusals.Fresh refused) :
    refusalJson requestId { db with feederRefusals := db.feederRefusals.insert refused fresh } =
      if refused.requestId = requestId then some refused.refusal else refusalJson requestId db := by
  simp only [refusalJson, Table.find?_rows_insert, decide_eq_true_eq]
  split
  · rename_i sameId
    have absent : db.feederRefusals.rows.find? (fun row => row.requestId = requestId) = none := by
      refine List.find?_eq_none.mpr fun row member isRow => fresh row member ?_
      exact sameKey_iff.mpr ⟨_, rfl, by rw [sameId, decide_eq_true_eq.mp isRow]⟩
    simp [absent]
  · rename_i otherId
    simp

theorem statusStr_insert {requestId : Uuid} {request : FeederRequest} {db : GatewayDb}
    (fresh : db.feederRequests.Fresh request) (events : List FeederRequestEvent) :
    statusStr requestId { db with
        feederRequests := db.feederRequests.insert request fresh
        feederRequestEvents := events } =
      if request.requestId = requestId then some request.status else statusStr requestId db := by
  simp only [statusStr, Table.find?_rows_insert, decide_eq_true_eq]
  split
  · rename_i sameId
    have absent : db.feederRequests.rows.find? (fun row => row.requestId = requestId) = none := by
      refine List.find?_eq_none.mpr fun row member isRow => fresh row member ?_
      exact sameKey_iff.mpr ⟨_, rfl, by rw [sameId, decide_eq_true_eq.mp isRow]⟩
    simp [absent]
  · rename_i otherId
    simp

theorem rows_acknowledge (requestId : Uuid) (now : Int) (db : GatewayDb) :
    (acknowledgeRequest requestId now db).2.feederRequests.rows =
      db.feederRequests.rows.map (FeederRequest.acknowledge requestId now) ∧
    (acknowledgeRequest requestId now db).2.feederRefusals = db.feederRefusals := by
  unfold acknowledgeRequest
  dsimp only
  split
  · exact ⟨rows_setAcknowledged _ _ _, rfl⟩
  · exact ⟨rows_setAcknowledged _ _ _, rfl⟩

theorem statusStr_acknowledge {requestId other : Uuid} {now : Int} {db : GatewayDb}
    (reserved : decision requestId db = .reserved) :
    statusStr other (acknowledgeRequest requestId now db).2 =
      if requestId = other then some .acknowledged else statusStr other db := by
  rcases statusStr_eq_some.mp (decision_reserved.mp reserved) with ⟨row, member, sameId, isPending⟩
  have rows := (rows_acknowledge requestId now db).1
  split
  · rename_i isOther
    subst isOther
    refine statusStr_eq_some.mpr ⟨row.acknowledge requestId now, ?_, by simpa using sameId, ?_⟩
    · rw [rows]
      exact List.mem_map_of_mem member
    · rw [FeederRequest.acknowledge, if_pos ⟨sameId, isPending⟩]
  · rename_i isOther
    have search : ∀ rows : List FeederRequest,
        ((rows.map (FeederRequest.acknowledge requestId now)).find?
            fun row => row.requestId = other).map FeederRequest.status =
          (rows.find? fun row => row.requestId = other).map FeederRequest.status := by
      intro rows
      rw [List.find?_map, Option.map_map]
      have samePredicate : ((fun row => decide (row.requestId = other)) ∘
          FeederRequest.acknowledge requestId now) =
            fun row : FeederRequest => decide (row.requestId = other) := by
        funext row
        simp
      rw [samePredicate]
      cases found : rows.find? fun row => row.requestId = other with
      | none => rfl
      | some row =>
          have isId : row.requestId = other := by simpa using List.find?_some found
          have notRequest : ¬ (row.requestId = requestId ∧ row.status = .pending) := fun both =>
            isOther (both.1.symm.trans isId)
          simp only [Option.map_some, Function.comp_apply, FeederRequest.acknowledge,
            if_neg notRequest]
    rw [statusStr, statusStr, rows]
    exact search _

theorem Decides.decision_eq (decides : Decides before change after) (requestId : Uuid) :
    decision requestId after = change.decided requestId (decision requestId before) := by
  cases decides with
  | none => rfl
  | @refuses id refusal undecided fresh =>
      have refusals := @refusalJson_insert requestId _ before fresh
      rw [AdmissionChange.decided]
      split
      · rename_i sameId
        subst sameId
        rw [if_pos rfl] at refusals
        exact decision_refused.mpr ⟨(decision_undecided.mp undecided).1, refusals⟩
      · rename_i otherId
        rw [if_neg otherId] at refusals
        unfold decision
        rw [refusals]
        rfl
  | @reserves id now undecided idle fresh =>
      have statuses := @statusStr_insert requestId _ before fresh
        (before.feederRequestEvents ++ [⟨id, .reserved⟩])
      rw [AdmissionChange.decided]
      split
      · rename_i sameId
        rw [if_pos sameId] at statuses
        exact decision_reserved.mpr statuses
      · rename_i otherId
        rw [if_neg otherId] at statuses
        unfold decision
        rw [statuses]
        rfl
  | @acknowledges id now reserved =>
      have statuses := @statusStr_acknowledge id requestId now before reserved
      rw [AdmissionChange.decided]
      split
      · rename_i sameId
        rw [if_pos sameId] at statuses
        exact decision_acknowledged.mpr statuses
      · rename_i otherId
        rw [if_neg otherId] at statuses
        unfold decision
        rw [statuses, refusalJson, refusalJson, (rows_acknowledge id now before).2]

theorem Decides.develops (decides : Decides before change after) (requestId : Uuid) :
    Decision.Develops (decision requestId before) (decision requestId after) := by
  rw [decides.decision_eq requestId]
  cases decides with
  | none => exact .same _
  | refuses undecided =>
      rw [AdmissionChange.decided]
      split
      · rename_i sameId
        rw [← sameId, undecided]
        exact .refuses _
      · exact .same _
  | reserves undecided =>
      rw [AdmissionChange.decided]
      split
      · rename_i sameId
        rw [← sameId, undecided]
        exact .reserves
      · exact .same _
  | acknowledges reserved =>
      rw [AdmissionChange.decided]
      split
      · rename_i sameId
        rw [← sameId, reserved]
        exact .acknowledges _ (.inr rfl)
      · exact .same _

end Changes

/-! ## What becomes of rows -/

section Rows

variable {change : AdmissionChange} {before after : GatewayDb} {row : FeederRequest}

theorem Decides.row_cases (decides : Decides before change after)
    (member : row ∈ before.feederRequests.rows) :
    row ∈ after.feederRequests.rows ∨
      ∃ now, change = .acknowledges row.requestId now ∧ row.status = .pending ∧
        { row with status := .acknowledged, updatedAt := now } ∈ after.feederRequests.rows := by
  cases decides with
  | none => exact .inl member
  | refuses => exact .inl member
  | reserves _ _ fresh => exact .inl (Table.mem_rows_insert_old fresh member)
  | @acknowledges id now reserved =>
      have moved : row.acknowledge id now ∈
          (acknowledgeRequest id now before).2.feederRequests.rows := by
        rw [(rows_acknowledge id now before).1]
        exact List.mem_map_of_mem member
      by_cases selected : row.requestId = id ∧ row.status = .pending
      · rw [FeederRequest.acknowledge, if_pos selected] at moved
        exact .inr ⟨now, by rw [selected.1], selected.2, moved⟩
      · rw [FeederRequest.acknowledge, if_neg selected] at moved
        exact .inl moved

theorem Decides.acknowledged_kept (decides : Decides before change after)
    (member : row ∈ before.feederRequests.rows) (acknowledged : row.status = .acknowledged) :
    row ∈ after.feederRequests.rows := by
  rcases decides.row_cases member with kept | ⟨_, _, isPending, _⟩
  · exact kept
  · rw [acknowledged] at isPending
    cases isPending

end Rows

/-! ## The store stays sound -/

/-- No request is both reserved and refused, and at most one is pending. -/
structure GatewaySound (db : GatewayDb) : Prop where
  disjoint : ∀ request ∈ db.feederRequests.rows, ∀ refused ∈ db.feederRefusals.rows,
    request.requestId ≠ refused.requestId
  onePending : ∀ left ∈ db.feederRequests.rows, ∀ right ∈ db.feederRequests.rows,
    left.status = .pending → right.status = .pending → left = right

namespace GatewaySound

variable {change : AdmissionChange} {before after : GatewayDb}

theorem ofEmpty : GatewaySound GatewayDb.empty :=
  ⟨by simp [GatewayDb.empty], by simp [GatewayDb.empty]⟩

/-- An acknowledged row of a request comes from a row that may have been pending. -/
theorem mem_rows_acknowledge {requestId : Uuid} {now : Int} {row : FeederRequest}
    (member : row ∈ (acknowledgeRequest requestId now before).2.feederRequests.rows) :
    ∃ old ∈ before.feederRequests.rows, old.acknowledge requestId now = row := by
  rw [(rows_acknowledge requestId now before).1] at member
  exact List.mem_map.mp member

theorem of_decides (sound : GatewaySound before) (decides : Decides before change after) :
    GatewaySound after := by
  cases decides with
  | none => exact sound
  | refuses undecided fresh =>
      refine ⟨fun request member refused isRefused => ?_, sound.onePending⟩
      rcases (Table.mem_rows_insert fresh).mp isRefused with old | rfl
      · exact sound.disjoint request member refused old
      · exact statusStr_eq_none.mp (decision_undecided.mp undecided).1 request member
  | @reserves id now undecided idle fresh =>
      refine ⟨fun request member refused isRefused => ?_,
        fun left leftMember right rightMember leftPending rightPending => ?_⟩
      · rcases (Table.mem_rows_insert fresh).mp member with old | rfl
        · exact sound.disjoint request old refused isRefused
        · exact (refusalJson_eq_none.mp (decision_undecided.mp undecided).2 refused isRefused).symm
      · have isNew : ∀ row ∈ (before.feederRequests.insert _ fresh).rows,
            row.status = .pending → row = ⟨id, .pending, now, now⟩ := fun row member isPending => by
          rcases (Table.mem_rows_insert fresh).mp member with old | equal
          · rw [idle row old] at isPending
            cases isPending
          · exact equal
        rw [isNew left leftMember leftPending, isNew right rightMember rightPending]
  | @acknowledges id now reserved =>
      refine ⟨fun request member refused isRefused => ?_,
        fun left leftMember right rightMember leftPending rightPending => ?_⟩
      · rcases mem_rows_acknowledge member with ⟨old, oldMember, rfl⟩
        rw [(rows_acknowledge id now before).2] at isRefused
        simpa using sound.disjoint old oldMember refused isRefused
      · rcases mem_rows_acknowledge leftMember with ⟨oldLeft, oldLeftMember, rfl⟩
        rcases mem_rows_acknowledge rightMember with ⟨oldRight, oldRightMember, rfl⟩
        have stillPending : ∀ row : FeederRequest, (row.acknowledge id now).status = .pending →
            row.status = .pending := by
          intro row isPending
          unfold FeederRequest.acknowledge at isPending
          split at isPending
          · cases isPending
          · exact isPending
        rw [sound.onePending oldLeft oldLeftMember oldRight oldRightMember
          (stillPending _ leftPending) (stillPending _ rightPending)]

end GatewaySound

end LightningGoats
