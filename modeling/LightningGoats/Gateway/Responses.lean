import LightningGoats.Gateway.Capacity
import LightningGoats.Gateway.Server

/-! # What the client makes of a response

The client accepts every status that a handler responds with and reads it as it
was written. It accepts no other response.
-/

namespace LightningGoats

open Outcome

def HttpResponse.ReadsAsWritten (response : HttpResponse) (requestId : Uuid) : Prop :=
  ∀ status, readFeedStatus response requestId = .ok status ↔ response.body = .status status

section Responses

variable {requestId : Uuid} {response : HttpResponse} {refusal : FeedRefusal}

theorem readFeedStatus_of {code : Nat} {written : FeedRequestStatus}
    (known : code ∈ [200, 202, 409, 423, 429, 504])
    (valid : written.validate requestId = .ok ())
    (confirms : written.status = .confirmed → code = 200)
    (refuses : written.status = .notDispatched → code ∈ [200, 423, 429]) :
    readFeedStatus ⟨code, .status written⟩ requestId = .ok written := by
  rw [readFeedStatus, ensure_of known, ok_bind, ResponseBody.decode, ok_bind, valid, ok_bind,
    ensure_of confirms, ok_bind, ensure_of refuses, ok_bind]
  rfl

theorem readsAsWritten_of {code : Nat} {written : FeedRequestStatus}
    (accepted : readFeedStatus ⟨code, .status written⟩ requestId = .ok written) :
    HttpResponse.ReadsAsWritten ⟨code, .status written⟩ requestId := by
  intro status
  constructor
  · intro read
    exact (readFeedStatus_ok read).1
  · intro same
    cases same
    exact accepted

theorem publicError_reads (code : Nat) (reason : String) :
    (publicError code reason).ReadsAsWritten requestId := by
  intro status
  constructor
  · intro read
    exact (readFeedStatus_ok read).1
  · intro same
    cases same

theorem outcomeResponse_reads {code : Nat} {status : FeedOutcome}
    (agrees : (code, status) ∈ [(200, FeedOutcome.confirmed), (202, .pending), (409, .ambiguous),
      (504, .ambiguous)]) :
    (outcomeResponse code requestId status).ReadsAsWritten requestId := by
  simp only [List.mem_cons, Prod.mk.injEq, List.not_mem_nil, or_false] at agrees
  apply readsAsWritten_of
  rcases agrees with ⟨rfl, rfl⟩ | ⟨rfl, rfl⟩ | ⟨rfl, rfl⟩ | ⟨rfl, rfl⟩
  all_goals
    apply readFeedStatus_of (by decide) _ (by simp) (by simp)
    rw [FeedRequestStatus.validate, ensure_of rfl]
    rfl

theorem refusalResponse_reads
    (bounds : 1 ≤ refusal.retryAfterSeconds ∧ refusal.retryAfterSeconds ≤ 86400) :
    (refusalResponse requestId refusal).ReadsAsWritten requestId := by
  have valid : (refusedStatus ⟨requestId, refusal⟩).validate requestId = .ok () :=
    validate_refusedStatus bounds
  apply readsAsWritten_of
  by_cases full : refusal.reason = .capacity
  · rw [if_pos full]
    exact readFeedStatus_of (by decide) valid (by simp) (by simp)
  · rw [if_neg full]
    exact readFeedStatus_of (by decide) valid (by simp) (by simp)

end Responses

/-! ## Whatever a handler responds with -/

def Next.ReadsAsWritten (next : Next) (requestId : Uuid) : Prop :=
  match next with
  | .goto _ => True
  | .respond response => response.ReadsAsWritten requestId

section Handlers

variable {requestId : Uuid} {pc : HandlerPc} {before after : GatewayDb} {event : HandlerEvent}
  {next : Next} {refusal : FeedRefusal}

theorem Retryable.bounds (retryable : Retryable before)
    (stored : refusalJson requestId before = some refusal) :
    1 ≤ refusal.retryAfterSeconds ∧ refusal.retryAfterSeconds ≤ 86400 := by
  rcases refusalJson_eq_some.mp stored with ⟨row, member, _, rfl⟩
  exact retryable row member

theorem Retryable.of_acts (retryable : Retryable before)
    (acts : Acts requestId pc before event next after) : Retryable after := by
  cases acts with
  | @began limits safetyRefusal checkedAt insertedAt _ _ outcome ran =>
      have step : AdmissionStep limits before
          ⟨.beginRequest requestId safetyRefusal checkedAt insertedAt, .began outcome⟩ after := by
        rw [AdmissionStep, AdmissionCall.execute, ran]
      exact retryable.step step
  | @acknowledged now _ _ changed ran =>
      have step : AdmissionStep ⟨0, 0⟩ before ⟨.acknowledge requestId now, .acknowledged changed⟩
          after := by
        rw [AdmissionStep, AdmissionCall.execute, ran]
      exact retryable.step step
  | _ => exact retryable

theorem confirmed_reads : (Next.respond (outcomeResponse 200 requestId .confirmed)).ReadsAsWritten
    requestId :=
  outcomeResponse_reads (by simp)

theorem existingResponse_reads {status : StoredRequestStatus}
    (bounded : ∀ refusal, status = .notDispatched refusal →
      1 ≤ refusal.retryAfterSeconds ∧ refusal.retryAfterSeconds ≤ 86400) :
    (existingResponse requestId status).ReadsAsWritten requestId := by
  cases status with
  | acknowledged => exact confirmed_reads
  | pending => trivial
  | notDispatched refusal => exact refusalResponse_reads (bounded refusal rfl)

theorem afterStatus_reads {method : FeedMethod} {status : Option StoredRequestStatus}
    (bounded : ∀ refusal, status = some (.notDispatched refusal) →
      1 ≤ refusal.retryAfterSeconds ∧ refusal.retryAfterSeconds ≤ 86400) :
    (afterStatus method requestId status).ReadsAsWritten requestId := by
  cases status with
  | some status =>
      apply existingResponse_reads
      intro refusal isRefusal
      exact bounded refusal (congrArg some isRefusal)
  | none =>
      cases method with
      | post => trivial
      | get => exact publicError_reads 404 _

theorem afterOwner_reads (polling pastDeadline : Bool) (answer : Option OwnerOutcome) :
    (afterOwner requestId polling pastDeadline answer).ReadsAsWritten requestId := by
  have ambiguous : (Next.respond (outcomeResponse 409 requestId .ambiguous)).ReadsAsWritten
      requestId := outcomeResponse_reads (by simp)
  have waiting : (Next.respond (outcomeResponse 202 requestId .pending)).ReadsAsWritten
      requestId := outcomeResponse_reads (by simp)
  have again : (waitForAck.again requestId pastDeadline).ReadsAsWritten requestId := by
    cases pastDeadline with
    | true => exact outcomeResponse_reads (by simp)
    | false => trivial
  cases polling with
  | true =>
      cases answer with
      | none => exact ambiguous
      | some outcome =>
          cases outcome with
          | complete => trivial
          | rejected => exact ambiguous
          | ambiguous => exact ambiguous
          | absent => exact again
          | pending => exact again
  | false =>
      cases answer with
      | none => exact publicError_reads 502 _
      | some outcome =>
          cases outcome with
          | complete => trivial
          | rejected => exact ambiguous
          | ambiguous => exact ambiguous
          | absent => exact waiting
          | pending => exact waiting

theorem afterAcknowledgement_reads (outcome : Except GatewayError Unit) :
    (afterAcknowledgement requestId outcome).ReadsAsWritten requestId := by
  cases outcome with
  | ok _ => exact confirmed_reads
  | error error => exact publicError_reads 502 _

theorem Acts.reads (acts : Acts requestId pc before event next after)
    (retryable : Retryable before) : next.ReadsAsWritten requestId := by
  have later := retryable.of_acts acts
  cases acts with
  | statusRead method =>
      cases isStatus : statusStr requestId before with
      | none => trivial
      | some row =>
          apply afterStatus_reads
          intro refusal isRefusal
          cases row with
          | pending => cases isRefusal
          | acknowledged => cases isRefusal
  | refusalRead method =>
      apply afterStatus_reads
      intro refusal isRefusal
      cases stored : refusalJson requestId before with
      | none =>
          rw [stored] at isRefusal
          cases isRefusal
      | some found =>
          rw [stored] at isRefusal
          cases isRefusal
          exact retryable.bounds stored
  | safetyRead => trivial
  | @began _ _ _ _ _ _ outcome ran =>
      cases outcome with
      | new => trivial
      | acknowledged => exact confirmed_reads
      | pending => trivial
      | notDispatched refusal =>
          apply refusalResponse_reads
          rcases beginRequest_cases ran with ⟨_, rfl, isDecision⟩ | ⟨_, same, refuses⟩ |
            ⟨isNew, _⟩
          · exact retryable.bounds (decision_refused.mp isDecision).2
          · cases same
            cases refuses with
            | refuses undecided fresh =>
                exact later _ (Relational.Table.mem_rows_insert_new fresh)
          · cases isNew
  | @commanded sent accepted _ =>
      cases accepted with
      | true => trivial
      | false => exact outcomeResponse_reads (by simp)
  | ownerRead polling pastDeadline answer => exact afterOwner_reads polling pastDeadline answer
  | @acknowledged _ _ _ changed ran =>
      cases changed with
      | true =>
          rw [afterAcknowledge, if_pos rfl]
          exact afterAcknowledgement_reads _
      | false => trivial
  | recheckedStatus =>
      cases statusStr requestId before with
      | none => trivial
      | some row => exact afterAcknowledgement_reads _
  | recheckedRefusal => exact afterAcknowledgement_reads _
  | storeFailed => exact publicError_reads 502 _
  | timedOut => exact outcomeResponse_reads (by simp)
  | dropped => trivial

theorem Retryable.of_gateway {first last : Gateway} {labels : List GatewayLabel}
    (retryable : Retryable first.db) (run : GatewayRun first labels last) : Retryable last.db := by
  induction run with
  | nil => exact retryable
  | cons step _ induction =>
      apply induction
      cases step with
      | receives => exact retryable
      | acts _ acts => exact retryable.of_acts acts

/-- In every state that the gateway reaches, whatever a handler responds with next is
read by the client as it was written: a status is accepted, and nothing else is. -/
theorem client_reads_responses {labels : List GatewayLabel} {gateway : Gateway}
    {response : HttpResponse} (run : GatewayRun .initial labels gateway)
    (acts : Acts requestId pc gateway.db event (.respond response) after)
    (status : FeedRequestStatus) :
    readFeedStatus response requestId = .ok status ↔ response.body = .status status :=
  acts.reads (retryable_empty.of_gateway run) status

end Handlers

end LightningGoats
