import Mathlib.Algebra.Group.Nat.Defs
import LightningGoats.Foundation.Outcome
import LightningGoats.Domain.Uuid

/-! # The feed state machine in memory

A feed ledger counts credit, and a runtime has at most one active attempt. The
ledger is debited when an attempt is confirmed, never when it begins.
-/

namespace LightningGoats

open Outcome

inductive FeedError
  | zeroThreshold
  | creditOverflow
  | noFeedDue
  | overrideEnabled
  | attemptAlreadyActive
  | noActiveAttempt
  | attemptIdMismatch
  | invalidAttemptState
  deriving DecidableEq, Repr

/-- The two amounts are 64-bit. -/
@[ext] structure FeedLedger where
  thresholdSats : Nat
  creditSats : Nat
  thresholdPositive : 0 < thresholdSats
  deriving Repr

instance : DecidableEq FeedLedger :=
  fun _ _ => decidable_of_iff' _ FeedLedger.ext_iff

namespace FeedLedger

def new (thresholdSats : Nat) : Except FeedError FeedLedger :=
  if positive : 0 < thresholdSats then .ok ⟨thresholdSats, 0, positive⟩
  else .error .zeroThreshold

def credit (ledger : FeedLedger) (amountSats : Nat) : Except FeedError FeedLedger := do
  ensure (ledger.creditSats + amountSats < 2 ^ 64) .creditOverflow
  return { ledger with creditSats := ledger.creditSats + amountSats }

def debitConfirmedFeed (ledger : FeedLedger) : Except FeedError FeedLedger := do
  ensure (ledger.thresholdSats ≤ ledger.creditSats) .noFeedDue
  return { ledger with creditSats := ledger.creditSats - ledger.thresholdSats }

def feedsDue (ledger : FeedLedger) : Nat :=
  ledger.creditSats / ledger.thresholdSats

def remainderSats (ledger : FeedLedger) : Nat :=
  ledger.creditSats % ledger.thresholdSats

theorem feedsDue_eq_zero (ledger : FeedLedger) :
    ledger.feedsDue = 0 ↔ ledger.creditSats < ledger.thresholdSats := by
  unfold feedsDue
  rw [Nat.div_eq_zero_iff, or_iff_right ledger.thresholdPositive.ne']

/-- A feed that is due takes one from the feeds due and leaves the remainder. -/
theorem feeds_of_debit (ledger : FeedLedger) (due : ledger.thresholdSats ≤ ledger.creditSats) :
    (ledger.creditSats - ledger.thresholdSats) / ledger.thresholdSats + 1 = ledger.feedsDue ∧
      (ledger.creditSats - ledger.thresholdSats) % ledger.thresholdSats =
        ledger.remainderSats := by
  unfold feedsDue remainderSats
  rw [Nat.div_eq_sub_div ledger.thresholdPositive due, Nat.mod_eq_sub_mod due]
  exact ⟨rfl, rfl⟩

end FeedLedger

/-! ## The runtime -/

inductive ActiveStatus
  | intentCommitted
  | unknown
  deriving DecidableEq, Repr

structure ActiveAttempt where
  id : Uuid
  status : ActiveStatus
  deriving DecidableEq, Repr

structure FeedRuntime where
  ledger : FeedLedger
  activeAttempt : Option ActiveAttempt
  deriving DecidableEq, Repr

namespace FeedRuntime

def new (ledger : FeedLedger) : FeedRuntime :=
  ⟨ledger, none⟩

def credit (runtime : FeedRuntime) (amountSats : Nat) : Except FeedError FeedRuntime := do
  let ledger ← runtime.ledger.credit amountSats
  return { runtime with ledger := ledger }

/-- The identifier of the attempt is the one that is drawn for it. -/
def beginNextFeed (runtime : FeedRuntime) (overrideEnabled : Bool) (drawn : Uuid) :
    Except FeedError FeedRuntime := do
  ensure (overrideEnabled = false) .overrideEnabled
  ensure (runtime.activeAttempt = none) .attemptAlreadyActive
  ensure (runtime.ledger.feedsDue ≠ 0) .noFeedDue
  return { runtime with activeAttempt := some ⟨drawn, .intentCommitted⟩ }

def requireAttempt (runtime : FeedRuntime) (attemptId : Uuid) (expected : ActiveStatus) :
    Except FeedError Unit :=
  match runtime.activeAttempt with
  | none => .error .noActiveAttempt
  | some attempt =>
      if attempt.id = attemptId ∧ attempt.status = expected then .ok ()
      else if attempt.id ≠ attemptId then .error .attemptIdMismatch
      else .error .invalidAttemptState

def confirmFeed (runtime : FeedRuntime) (attemptId : Uuid) : Except FeedError FeedRuntime := do
  runtime.requireAttempt attemptId .intentCommitted
  let ledger ← runtime.ledger.debitConfirmedFeed
  return ⟨ledger, none⟩

def markFeedUnknown (runtime : FeedRuntime) (attemptId : Uuid) :
    Except FeedError FeedRuntime := do
  runtime.requireAttempt attemptId .intentCommitted
  return { runtime with activeAttempt := some ⟨attemptId, .unknown⟩ }

def reconcileUnknownAsFed (runtime : FeedRuntime) (attemptId : Uuid) :
    Except FeedError FeedRuntime := do
  runtime.requireAttempt attemptId .unknown
  let ledger ← runtime.ledger.debitConfirmedFeed
  return ⟨ledger, none⟩

def reconcileUnknownAsNotFed (runtime : FeedRuntime) (attemptId : Uuid) :
    Except FeedError FeedRuntime := do
  runtime.requireAttempt attemptId .unknown
  return { runtime with activeAttempt := none }

variable {runtime : FeedRuntime} {attemptId : Uuid} {expected : ActiveStatus}

theorem requireAttempt_of (active : runtime.activeAttempt = some ⟨attemptId, expected⟩) :
    runtime.requireAttempt attemptId expected = .ok () := by
  rw [requireAttempt, active]
  exact if_pos ⟨rfl, rfl⟩

theorem requireAttempt_refuses (inactive : runtime.activeAttempt ≠ some ⟨attemptId, expected⟩) :
    ∃ error, runtime.requireAttempt attemptId expected = .error error ∧ error ≠ .noFeedDue := by
  unfold requireAttempt
  split
  · exact ⟨_, rfl, by decide⟩
  · rename_i attempt active
    have differs : ¬ (attempt.id = attemptId ∧ attempt.status = expected) := by
      rintro ⟨rfl, rfl⟩
      exact inactive active
    rw [if_neg differs]
    split
    · exact ⟨_, rfl, by decide⟩
    · exact ⟨_, rfl, by decide⟩

/-- Feed while a feed is due, with the identifiers that are drawn, and count the feeds. -/
def drain : List Uuid → FeedRuntime → Nat × FeedRuntime
  | [], runtime => (0, runtime)
  | drawn :: rest, runtime =>
      match runtime.beginNextFeed false drawn with
      | .error _ => (0, runtime)
      | .ok begun =>
          match begun.confirmFeed drawn with
          | .error _ => (0, begun)
          | .ok confirmed =>
              let drained := drain rest confirmed
              (drained.1 + 1, drained.2)

theorem beginNextFeed_idle (drawn : Uuid) (idle : runtime.activeAttempt = none) :
    runtime.beginNextFeed false drawn =
      if runtime.ledger.creditSats < runtime.ledger.thresholdSats then .error .noFeedDue
      else .ok { runtime with activeAttempt := some ⟨drawn, .intentCommitted⟩ } := by
  have due := runtime.ledger.feedsDue_eq_zero
  unfold beginNextFeed
  rw [idle]
  split
  · rename_i short
    rw [due.mpr short]
    rfl
  · rename_i covered
    rw [ensure_of (mt due.mp covered)]
    rfl

theorem confirmFeed_begun (drawn : Uuid)
    (covered : runtime.ledger.thresholdSats ≤ runtime.ledger.creditSats) :
    confirmFeed { runtime with activeAttempt := some ⟨drawn, .intentCommitted⟩ } drawn =
      .ok ⟨{ runtime.ledger with
        creditSats := runtime.ledger.creditSats - runtime.ledger.thresholdSats }, none⟩ :=
  bind_eq_ok.mpr ⟨(), requireAttempt_of rfl, bind_eq_ok.mpr
    ⟨_, bind_eq_ok.mpr ⟨.unit, ensure_of covered, rfl⟩, rfl⟩⟩

theorem drain_eq (draws : List Uuid) (runtime : FeedRuntime)
    (idle : runtime.activeAttempt = none) (enough : runtime.ledger.feedsDue ≤ draws.length) :
    runtime.drain draws = (runtime.ledger.feedsDue,
      ⟨{ runtime.ledger with creditSats := runtime.ledger.remainderSats }, none⟩) := by
  induction draws generalizing runtime with
  | nil =>
      have none' := Nat.le_zero.mp enough
      have short := runtime.ledger.feedsDue_eq_zero.mp none'
      rcases runtime with ⟨ledger, active⟩
      cases idle
      have remains : ledger.remainderSats = ledger.creditSats := Nat.mod_eq_of_lt short
      rw [drain, none', remains]
  | cons drawn rest induction =>
      by_cases short : runtime.ledger.creditSats < runtime.ledger.thresholdSats
      · have none' := runtime.ledger.feedsDue_eq_zero.mpr short
        have remains : runtime.ledger.remainderSats = runtime.ledger.creditSats :=
          Nat.mod_eq_of_lt short
        rw [drain, beginNextFeed_idle drawn idle, if_pos short, none', remains, ← idle]
      · have covered := Nat.le_of_not_lt short
        rcases runtime.ledger.feeds_of_debit covered with ⟨feeds, remains⟩
        have rested := induction ⟨{ runtime.ledger with
          creditSats := runtime.ledger.creditSats - runtime.ledger.thresholdSats }, none⟩ rfl
          (by
            rw [← feeds, List.length_cons] at enough
            exact Nat.le_of_succ_le_succ enough)
        rw [drain, beginNextFeed_idle drawn idle, if_neg short]
        simp only [confirmFeed_begun drawn covered, rested]
        rw [← feeds, ← remains]
        rfl

end FeedRuntime

end LightningGoats
