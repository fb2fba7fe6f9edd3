import LightningGoats.Gateway.Server

/-! # What the handlers of a gateway can do

Every statement of a handler is a transaction of the store or leaves it alone.
A handler comes to command the owner, or to acknowledge a request, in one way
only.
-/

namespace LightningGoats

open Outcome

/-! ## One statement -/

def HandlerEvent.reports : HandlerEvent → Option Decision
  | statusRead (some .pending) => some .reserved
  | statusRead (some .acknowledged) => some .acknowledged
  | refusalRead (some refusal) => some (.refused refusal)
  | began outcome => some outcome.decision
  | acknowledged true => some .acknowledged
  | _ => none

section Statements

variable {requestId : Uuid} {pc : HandlerPc} {before after : GatewayDb} {event : HandlerEvent}
  {next : Next}

/-- A handler changes the store only in the transactions of its own request. -/
theorem Acts.decides (acts : Acts requestId pc before event next after) :
    ∃ change, Decides before change after ∧
      ∀ other now, change = .acknowledges other now →
        pc = .acknowledge ∧ other = requestId ∧ event = .acknowledged true := by
  cases acts with
  | began ran =>
      rcases beginRequest_cases ran with ⟨_, rfl, _⟩ | ⟨_, _, refuses⟩ | ⟨_, _, _, reserves⟩
      · exact ⟨_, .none _, by simp⟩
      · exact ⟨_, refuses, by simp⟩
      · exact ⟨_, reserves, by simp⟩
  | acknowledged ran =>
      rcases acknowledgeRequest_cases ran with ⟨rfl, acknowledges⟩ | ⟨rfl, rfl⟩
      · refine ⟨_, acknowledges, fun other now same => ?_⟩
        cases same
        exact ⟨rfl, rfl, rfl⟩
      · exact ⟨_, .none _, by simp⟩
  | _ => exact ⟨_, .none _, by simp⟩

theorem Acts.begins (acts : Acts requestId pc before (.began .new) next after) :
    decision requestId before = .undecided ∧ decision requestId after = .reserved := by
  cases acts with
  | began ran =>
      rcases beginRequest_cases ran with ⟨notNew, _⟩ | ⟨_, isRefusal, _⟩ | ⟨_, _, _, reserves⟩
      · exact absurd rfl notNew
      · cases isRefusal
      · have reserved := reserves.decision_eq requestId
        rw [AdmissionChange.decided, if_pos rfl] at reserved
        cases reserves with
        | reserves undecided => exact ⟨undecided, reserved⟩

theorem Acts.status_read {row : Option RequestStatus}
    (acts : Acts requestId pc before (.statusRead row) next after) :
    row = statusStr requestId before := by
  cases acts <;> rfl

theorem Acts.refusal_read {refusal : Option FeedRefusal}
    (acts : Acts requestId pc before (.refusalRead refusal) next after) :
    refusal = refusalJson requestId before := by
  cases acts <;> rfl

theorem Acts.reports (acts : Acts requestId pc before event next after)
    (sound : GatewaySound before) {reported : Decision}
    (isReported : event.reports = some reported) : decision requestId after = reported := by
  have status : ∀ {reported : Decision},
      (HandlerEvent.statusRead (statusStr requestId before)).reports = some reported →
        decision requestId before = reported := by
    intro reported isReported
    cases isRow : statusStr requestId before with
    | none =>
        rw [isRow] at isReported
        cases isReported
    | some row =>
        rw [isRow] at isReported
        cases row with
        | pending =>
            cases isReported
            exact decision_reserved.mpr isRow
        | acknowledged =>
            cases isReported
            exact decision_acknowledged.mpr isRow
  have refusal : ∀ {reported : Decision},
      (HandlerEvent.refusalRead (refusalJson requestId before)).reports = some reported →
        decision requestId before = reported := by
    intro reported isReported
    cases isRefusal : refusalJson requestId before with
    | none =>
        rw [isRefusal] at isReported
        cases isReported
    | some refusal =>
        rw [isRefusal] at isReported
        cases isReported
        rcases refusalJson_eq_some.mp isRefusal with ⟨refused, member, sameId, _⟩
        refine decision_refused.mpr ⟨statusStr_eq_none.mpr fun row isRow same => ?_, isRefusal⟩
        exact sound.disjoint row isRow refused member (same.trans sameId.symm)
  cases acts with
  | statusRead => exact status isReported
  | refusalRead => exact refusal isReported
  | recheckedStatus => exact status isReported
  | recheckedRefusal => exact refusal isReported
  | began ran =>
      cases isReported
      rcases beginRequest_cases ran with ⟨_, rfl, same⟩ | ⟨_, rfl, refuses⟩ |
        ⟨rfl, _, _, reserves⟩
      · exact same
      · rw [refuses.decision_eq requestId, AdmissionChange.decided, if_pos rfl]
        rfl
      · rw [reserves.decision_eq requestId, AdmissionChange.decided, if_pos rfl]
        rfl
  | acknowledged ran =>
      rcases acknowledgeRequest_cases ran with ⟨rfl, acknowledges⟩ | ⟨rfl, rfl⟩
      · cases isReported
        rw [acknowledges.decision_eq requestId, AdmissionChange.decided, if_pos rfl]
      · cases isReported
  | safetyRead => cases isReported
  | commanded => cases isReported
  | ownerRead => cases isReported
  | storeFailed => cases isReported
  | timedOut => cases isReported
  | dropped => cases isReported

/-! ## Where a statement leads -/

/-- The handler goes on neither to command the owner nor to acknowledge. -/
def Next.Harmless (next : Next) : Prop :=
  next.pc ≠ .command ∧ next.pc ≠ .acknowledge

theorem harmless_respond (response : HttpResponse) : (Next.respond response).Harmless :=
  ⟨by simp [Next.pc], by simp [Next.pc]⟩

theorem harmless_existing (status : StoredRequestStatus) :
    (existingResponse requestId status).Harmless := by
  cases status with
  | pending => exact ⟨by simp [existingResponse, Next.pc], by simp [existingResponse, Next.pc]⟩
  | _ => exact harmless_respond _

theorem harmless_status (method : FeedMethod) (status : Option StoredRequestStatus) :
    (afterStatus method requestId status).Harmless := by
  cases status with
  | some status => exact harmless_existing status
  | none =>
      cases method with
      | post => exact ⟨by simp [afterStatus, Next.pc], by simp [afterStatus, Next.pc]⟩
      | get => exact harmless_respond _

theorem harmless_acknowledgement (result : Except GatewayError Unit) :
    (afterAcknowledgement requestId result).Harmless := by
  cases result with
  | ok => exact harmless_respond _
  | error => exact harmless_respond _

theorem afterOwner_cases (polling pastDeadline : Bool) (answer : Option OwnerOutcome) :
    (answer = some .complete ∧
      (afterOwner requestId polling pastDeadline answer).pc = .acknowledge) ∨
      (afterOwner requestId polling pastDeadline answer).Harmless := by
  have again : (waitForAck.again requestId pastDeadline).Harmless := by
    unfold waitForAck.again
    split
    · exact harmless_respond _
    · exact ⟨by simp [Next.pc], by simp [Next.pc]⟩
  unfold afterOwner
  split
  · rcases answer with _ | _ | _ | _ | _ | _
    · exact .inr (harmless_respond _)
    · exact .inr again
    · exact .inr again
    · exact .inl ⟨rfl, rfl⟩
    · exact .inr (harmless_respond _)
    · exact .inr (harmless_respond _)
  · rcases answer with _ | _ | _ | _ | _ | _
    · exact .inr (harmless_respond _)
    · exact .inr (harmless_respond _)
    · exact .inr (harmless_respond _)
    · exact .inl ⟨rfl, rfl⟩
    · exact .inr (harmless_respond _)
    · exact .inr (harmless_respond _)

/-- A command follows a new admission, an acknowledgement follows a completion. -/
theorem Acts.leads (acts : Acts requestId pc before event next after) :
    (event = .began .new ∧ next.pc = .command) ∨
      (event = .ownerRead (some .complete) ∧ next.pc = .acknowledge) ∨ next.Harmless := by
  cases acts with
  | statusRead method =>
      cases statusStr requestId before with
      | none => exact .inr (.inr ⟨by simp [afterStatusStr, Next.pc], by simp [afterStatusStr, Next.pc]⟩)
      | some row => exact .inr (.inr (harmless_status method _))
  | refusalRead method => exact .inr (.inr (harmless_status method _))
  | safetyRead => exact .inr (.inr ⟨by simp [Next.pc], by simp [Next.pc]⟩)
  | began =>
      rename_i outcome _
      cases outcome with
      | new => exact .inl ⟨rfl, rfl⟩
      | pending => exact .inr (.inr ⟨by simp [afterBegin, Next.pc], by simp [afterBegin, Next.pc]⟩)
      | acknowledged => exact .inr (.inr (harmless_respond _))
      | notDispatched => exact .inr (.inr (harmless_respond _))
  | commanded =>
      rename_i accepted _
      cases accepted with
      | false => exact .inr (.inr (harmless_respond _))
      | true =>
          exact .inr (.inr ⟨by simp [afterCommand, Next.pc], by simp [afterCommand, Next.pc]⟩)
  | ownerRead polling pastDeadline answer =>
      rcases @afterOwner_cases requestId polling pastDeadline answer with ⟨rfl, leads⟩ | harmless
      · exact .inr (.inl ⟨rfl, leads⟩)
      · exact .inr (.inr harmless)
  | acknowledged =>
      rename_i changed _
      cases changed with
      | true => exact .inr (.inr (harmless_respond _))
      | false =>
          exact .inr (.inr ⟨by simp [afterAcknowledge, Next.pc],
            by simp [afterAcknowledge, Next.pc]⟩)
  | recheckedStatus =>
      cases statusStr requestId before with
      | none => exact .inr (.inr ⟨by simp [afterRecheck, Next.pc], by simp [afterRecheck, Next.pc]⟩)
      | some row => exact .inr (.inr (harmless_acknowledgement _))
  | recheckedRefusal => exact .inr (.inr (harmless_acknowledgement _))
  | storeFailed => exact .inr (.inr (harmless_respond _))
  | timedOut => exact .inr (.inr (harmless_respond _))
  | dropped => exact .inr (.inr ⟨by simp [Next.pc], by simp [Next.pc]⟩)

theorem Acts.of_command (acts : Acts requestId pc before event next after)
    (isNext : next.pc = .command) : event = .began .new := by
  rcases acts.leads with ⟨isNew, _⟩ | ⟨_, other⟩ | harmless
  · exact isNew
  · rw [isNext] at other
    cases other
  · exact absurd isNext harmless.1

theorem Acts.of_acknowledge (acts : Acts requestId pc before event next after)
    (isNext : next.pc = .acknowledge) : event = .ownerRead (some .complete) := by
  rcases acts.leads with ⟨_, other⟩ | ⟨isComplete, _⟩ | harmless
  · rw [isNext] at other
    cases other
  · exact isComplete
  · exact absurd isNext harmless.2

theorem Acts.commands_eq (acts : Acts requestId pc before event next after) :
    event.commands requestId = [] ∨ pc = .command ∧ event.commands requestId = [requestId] ∧
      after = before := by
  cases acts with
  | commanded =>
      rename_i sent _ _
      cases sent with
      | false => exact .inl rfl
      | true => exact .inr ⟨rfl, rfl, rfl⟩
  | _ => exact .inl rfl

end Statements

/-! ## One step of the gateway -/

section Steps

variable {gateway : Gateway} {index other : Nat} {handler moved : Handler}
  {event : HandlerEvent} {next : Next} {db : GatewayDb}

/-- The handlers after a statement: the one that performed it has moved on. -/
theorem handler_of_advance
    (found : (gateway.advance index handler event next db).handlers[other]? = some moved) :
    (other = index ∧ moved = { handler with pc := next.pc }) ∨
      (other ≠ index ∧ gateway.handlers[other]? = some moved) := by
  simp only [Gateway.advance, List.getElem?_set] at found
  split at found
  · rename_i same
    split at found
    · exact .inl ⟨same.symm, (Option.some.inj found).symm⟩
    · cases found
  · rename_i different
    exact .inr ⟨Ne.symm different, found⟩

/-- The handlers after a request has been received: the last one has just begun. -/
theorem handler_of_receive {method : FeedMethod} {exchange : Nat} {requestId : Uuid}
    (found : (gateway.receive method exchange requestId).handlers[other]? = some moved) :
    (other = gateway.handlers.length ∧ moved = ⟨exchange, requestId, .readStatus method⟩) ∨
      gateway.handlers[other]? = some moved := by
  simp only [Gateway.receive, List.getElem?_append] at found
  split at found
  · exact .inr found
  · rename_i beyond
    rcases List.getElem?_eq_some_iff.mp found with ⟨inside, isLast⟩
    simp only [List.length_singleton] at inside
    refine .inl ⟨by omega, ?_⟩
    rw [← isLast]
    simp

end Steps

end LightningGoats
