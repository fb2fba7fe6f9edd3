import Mathlib.Algebra.BigOperators.Group.List.Basic
import Mathlib.Algebra.Order.Ring.Int
import Mathlib.Algebra.Order.Group.Unbundled.Int

/-! # Crediting a cumulative total

Amounts arrive one at a time and are credited by the value of their running
total, not one by one: each arrival is granted the difference between the
value of the new total and the value already credited. However the value
rounds, the grants telescope, so what is credited in the end depends on the
total alone.
-/

namespace Watermark

section Account

variable {Amount Value : Type}

/-- A running total with what has been credited for it. An account whose two
watermarks disagree cannot be built. -/
structure Account (value : Amount → Value) where
  total : Amount
  credited : Value
  aligned : credited = value total

variable [AddCommMonoid Amount] [AddCommGroup Value] {value : Amount → Value}

namespace Account

def start (value : Amount → Value) : Account value where
  total := 0
  credited := value 0
  aligned := rfl

def delta (account : Account value) (amount : Amount) : Value :=
  value (account.total + amount) - account.credited

def grant (account : Account value) (amount : Amount) : Account value where
  total := account.total + amount
  credited := account.credited + account.delta amount
  aligned := by
    rw [delta]
    exact add_sub_cancel _ _

def grantAll (account : Account value) (amounts : List Amount) : Account value :=
  amounts.foldl grant account

@[simp] theorem grant_total (account : Account value) (amount : Amount) :
    (account.grant amount).total = account.total + amount := rfl

theorem grantAll_concat (account : Account value) (amounts : List Amount)
    (amount : Amount) :
    account.grantAll (amounts ++ [amount]) = (account.grantAll amounts).grant amount := by
  simp [grantAll]

theorem grantAll_total (account : Account value) (amounts : List Amount) :
    (account.grantAll amounts).total = account.total + amounts.sum := by
  induction amounts generalizing account with
  | nil => simp [grantAll]
  | cons amount rest induction =>
      have step := induction (account.grant amount)
      rw [List.sum_cons, ← add_assoc]
      exact step

end Account

end Account

/-! ## Entries that record running totals -/

structure Entry where
  amount : Int
  delta : Int
  cumulativeAmount : Int
  cumulativeValue : Int
  deriving DecidableEq, Repr

/-- Every entry records the totals of all entries up to and including it. -/
def Running (entries : List Entry) : Prop :=
  ∀ position entry, entries[position]? = some entry →
    entry.cumulativeAmount = ((entries.take (position + 1)).map Entry.amount).sum ∧
      entry.cumulativeValue = ((entries.take (position + 1)).map Entry.delta).sum

theorem running_nil : Running [] := by
  intro position entry found
  simp at found

theorem Running.concat {entries : List Entry} (running : Running entries)
    {entry : Entry}
    (amounts : entry.cumulativeAmount = (entries.map Entry.amount).sum + entry.amount)
    (values : entry.cumulativeValue = (entries.map Entry.delta).sum + entry.delta) :
    Running (entries ++ [entry]) := by
  intro position found isFound
  rcases Nat.lt_or_ge position entries.length with inside | outside
  · rw [List.getElem?_append_left inside] at isFound
    rw [List.take_append_of_le_length (Nat.succ_le_of_lt inside)]
    exact running position found isFound
  · rw [List.getElem?_append_right outside] at isFound
    have last : position - entries.length = 0 := by
      by_contra later
      rw [List.getElem?_eq_none (by simp; omega)] at isFound
      cases isFound
    rw [last] at isFound
    cases isFound
    have whole : (entries ++ [entry]).take (position + 1) = entries ++ [entry] :=
      List.take_of_length_le (by simp; omega)
    rw [whole]
    simp only [List.map_append, List.map_cons, List.map_nil, List.sum_append,
      List.sum_cons, List.sum_nil, add_zero]
    exact ⟨amounts, values⟩

/-! ## Proportional shares -/

/-- The whole units of `target` that `amount` out of `expected` is worth. -/
def share (target expected amount : Int) : Int :=
  amount * target / expected

@[simp] theorem share_zero (target expected : Int) : share target expected 0 = 0 := by
  simp [share]

theorem share_mono {target expected : Int} (targetNonneg : 0 ≤ target)
    (expectedPositive : 0 < expected) {less more : Int} (ordered : less ≤ more) :
    share target expected less ≤ share target expected more :=
  Int.ediv_le_ediv expectedPositive (Int.mul_le_mul_of_nonneg_right ordered targetNonneg)

theorem share_nonneg {target expected amount : Int} (targetNonneg : 0 ≤ target)
    (expectedPositive : 0 < expected) (amountNonneg : 0 ≤ amount) :
    0 ≤ share target expected amount := by
  simpa using share_mono targetNonneg expectedPositive amountNonneg

end Watermark
