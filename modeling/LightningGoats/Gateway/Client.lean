import LightningGoats.Domain.Uuid
import LightningGoats.Foundation.Outcome

/-! # What the gateway's client accepts as an answer -/

namespace LightningGoats

open Outcome

inductive RefusalReason
  | safety
  | unresolved
  | capacity
  deriving DecidableEq, Repr

structure FeedRefusal where
  reason : RefusalReason
  retryAfterSeconds : Nat
  deriving DecidableEq, Repr

inductive FeedOutcome
  | notDispatched
  | pending
  | confirmed
  | ambiguous
  deriving DecidableEq, Repr

structure FeedRequestStatus where
  requestId : Uuid
  status : FeedOutcome
  refusal : Option FeedRefusal
  deriving DecidableEq, Repr

inductive ClientError
  | uuidMismatch
  | contradictoryOutcome
  | http (code : Nat)
  | malformed
  | confirmationStatus
  | refusalStatus
  deriving DecidableEq, Repr

def ClientError.message : ClientError → String
  | uuidMismatch => "gateway response UUID mismatch"
  | contradictoryOutcome => "contradictory gateway outcome"
  | http code => "gateway feed operation returned HTTP " ++ toString code
  | malformed => "malformed feed status"
  | confirmationStatus => "gateway confirmation HTTP status mismatch"
  | refusalStatus => "gateway refusal HTTP status mismatch"

def FeedRequestStatus.validate (status : FeedRequestStatus) (expected : Uuid) :
    Except ClientError Unit := do
  ensure (status.requestId = expected) .uuidMismatch
  match status.status, status.refusal with
  | .notDispatched, some refusal =>
      ensure (1 ≤ refusal.retryAfterSeconds ∧ refusal.retryAfterSeconds ≤ 86400)
        .contradictoryOutcome
  | .notDispatched, none => throw .contradictoryOutcome
  | _, some _ => throw .contradictoryOutcome
  | _, none => return ()

inductive ResponseBody
  | status (decoded : FeedRequestStatus)
  | error (reason : String)
  deriving DecidableEq, Repr

structure HttpResponse where
  code : Nat
  body : ResponseBody
  deriving DecidableEq, Repr

/-- An error body has other fields than a feed status and does not decode as one. -/
def ResponseBody.decode : ResponseBody → Except ClientError FeedRequestStatus
  | .status decoded => .ok decoded
  | .error _ => .error .malformed

def readFeedStatus (response : HttpResponse) (requestId : Uuid) :
    Except ClientError FeedRequestStatus := do
  ensure (response.code ∈ [200, 202, 409, 423, 429, 504]) (.http response.code)
  let result ← response.body.decode
  result.validate requestId
  ensure (result.status = .confirmed → response.code = 200) .confirmationStatus
  ensure (result.status = .notDispatched → response.code ∈ [200, 423, 429]) .refusalStatus
  return result

section Accepted

variable {requestId : Uuid} {response : HttpResponse} {status : FeedRequestStatus}

theorem FeedRequestStatus.validate_ok (valid : status.validate requestId = .ok ()) :
    status.requestId = requestId ∧
      (status.status = .notDispatched → ∃ refusal, status.refusal = some refusal ∧
        1 ≤ refusal.retryAfterSeconds ∧ refusal.retryAfterSeconds ≤ 86400) := by
  rcases status with ⟨id, outcome, refusal⟩
  unfold validate at valid
  simp only [bind_eq_ok, ensure_eq_ok] at valid
  rcases valid with ⟨_, sameId, valid⟩
  refine ⟨sameId, fun isRefusal => ?_⟩
  dsimp only at isRefusal
  subst isRefusal
  cases refusal with
  | none => cases valid
  | some refusal => exact ⟨refusal, rfl, ensure_eq_ok.mp valid⟩

/-- An accepted answer is the body of the response, and it is about the request. -/
theorem readFeedStatus_ok (accepted : readFeedStatus response requestId = .ok status) :
    response.body = .status status ∧ status.requestId = requestId := by
  unfold readFeedStatus at accepted
  simp only [bind_eq_ok, ensure_eq_ok, pure_eq_ok] at accepted
  rcases accepted with ⟨_, _, decoded, isDecoded, _, valid, _, _, _, _, rfl⟩
  refine ⟨?_, (FeedRequestStatus.validate_ok valid).1⟩
  cases isBody : response.body with
  | status inner =>
      rw [isBody] at isDecoded
      cases isDecoded
      rfl
  | error reason =>
      rw [isBody] at isDecoded
      cases isDecoded

end Accepted

end LightningGoats
