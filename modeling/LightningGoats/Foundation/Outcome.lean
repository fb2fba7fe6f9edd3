import Mathlib.Data.Int.Notation

/-! # Fallible computations

Rules for reading a successful `Except` computation backwards, one step at a
time, and for the guards it is made of.
-/

namespace Outcome

variable {ε : Type u} {α β : Type v}

/-- Fail with `error` unless `condition` holds. -/
def ensure {ε : Type u} (condition : Prop) [Decidable condition] (error : ε) :
    Except ε PUnit.{v + 1} :=
  if condition then .ok .unit else .error error

@[simp] theorem ensure_eq_ok {condition : Prop} [Decidable condition] {error : ε}
    {result : PUnit.{v + 1}} :
    ensure condition error = .ok result ↔ condition := by
  unfold ensure
  split
  · simp_all
  · simp_all

theorem ensure_of {condition : Prop} [Decidable condition] {error : ε}
    (holds : condition) : ensure condition error = .ok PUnit.unit.{v + 1} :=
  if_pos holds

def require (value : Option α) (error : ε) : Except ε α :=
  match value with
  | some found => .ok found
  | none => .error error

@[simp] theorem require_eq_ok {value : Option α} {error : ε} {found : α} :
    require value error = .ok found ↔ value = some found := by
  cases value <;> simp [require]

theorem ok_of_toOption {outcome : Except ε α} {value : α}
    (succeeds : outcome.toOption = some value) : outcome = .ok value := by
  cases outcome with
  | error error => cases succeeds
  | ok found =>
      cases succeeds
      rfl

/-- A sequence succeeds exactly when its first step does and the rest does on
the value of the first. -/
@[simp] theorem bind_eq_ok {first : Except ε α} {rest : α → Except ε β} {result : β} :
    (first >>= rest) = .ok result ↔
      ∃ value, first = .ok value ∧ rest value = .ok result := by
  cases first with
  | error error => simp [bind, Except.bind]
  | ok value => simp [bind, Except.bind]

theorem ok_bind {value : α} {rest : α → Except ε β} :
    ((Except.ok value : Except ε α) >>= rest) = rest value :=
  rfl

theorem require_some {value : α} {error : ε} : require (some value) error = .ok value :=
  rfl

@[simp] theorem pure_eq_ok {value result : α} :
    (pure value : Except ε α) = .ok result ↔ value = result := by
  simp [pure, Except.pure]

theorem mapError_ok {ε' : Type u} {value : α} {describe : ε → ε'} :
    (Except.ok value).mapError describe = .ok value :=
  rfl

@[simp] theorem mapError_eq_ok {ε' : Type u} {outcome : Except ε α} {describe : ε → ε'}
    {result : α} : outcome.mapError describe = .ok result ↔ outcome = .ok result := by
  cases outcome with
  | error error => exact ⟨nofun, nofun⟩
  | ok value =>
      rw [mapError_ok, Except.ok.injEq, Except.ok.injEq]

theorem failed_iff {outcome : Except ε α} :
    (∃ error, outcome = .error error) ↔ ¬ ∃ result, outcome = .ok result := by
  cases outcome with
  | error error => simp
  | ok result => simp

@[simp] theorem throw_ne_ok {error : ε} {result : α} :
    (throw error : Except ε α) ≠ .ok result := by
  intro impossible
  cases impossible

theorem bind_map {α' β' : Type v} {first : Except ε α} {other : Except ε α'}
    {rest : α → Except ε β} {others : α' → Except ε β'} {step : α → α'} {finish : β → β'}
    (same : other = first.map step)
    (next : ∀ value, first = .ok value → others (step value) = (rest value).map finish) :
    (other >>= others) = (first >>= rest).map finish := by
  subst same
  cases first with
  | error error => rfl
  | ok value => exact next value rfl

theorem bind_map_same {β' : Type v} {first : Except ε α} {rest : α → Except ε β}
    {others : α → Except ε β'} {finish : β → β'}
    (next : ∀ value, first = .ok value → others value = (rest value).map finish) :
    (first >>= others) = (first >>= rest).map finish := by
  cases first with
  | error error => rfl
  | ok value => exact next value rfl

theorem ite_map {β : Type v} {condition : Prop} [Decidable condition] {first second : Except ε α}
    {renamedFirst renamedSecond : Except ε β} {finish : α → β}
    (holds : renamedFirst = first.map finish) (fails : renamedSecond = second.map finish) :
    (if condition then renamedFirst else renamedSecond) =
      (if condition then first else second).map finish := by
  subst holds
  subst fails
  exact (apply_ite (Except.map finish) condition first second).symm

/-! ## Refusals -/

def Avoids (refusal : ε → Prop) (outcome : Except ε α) : Prop :=
  ∀ error, outcome = .error error → ¬ refusal error

namespace Avoids

variable {refusal : ε → Prop}

theorem ok (value : α) : Avoids refusal (.ok value) :=
  fun _ failed => nomatch failed

theorem error {reason : ε} (other : ¬ refusal reason) :
    Avoids refusal (.error reason : Except ε α) := by
  intro error failed
  cases failed
  exact other

theorem bind {first : Except ε α} {rest : α → Except ε β} (avoids : Avoids refusal first)
    (rest_avoids : ∀ value, first = .ok value → Avoids refusal (rest value)) :
    Avoids refusal (first >>= rest) := by
  cases first with
  | error error =>
      intro reason failed
      cases failed
      exact avoids error rfl
  | ok value => exact rest_avoids value rfl

theorem ensure {condition : Prop} [Decidable condition] {reason : ε} (other : ¬ refusal reason) :
    Avoids refusal (Outcome.ensure condition reason) := by
  unfold Outcome.ensure
  split
  · exact ok _
  · exact error other

theorem require {value : Option α} {reason : ε} (other : ¬ refusal reason) :
    Avoids refusal (Outcome.require value reason) := by
  cases value with
  | some found => exact ok found
  | none => exact error other

theorem mapError {ε' : Type u} {describe : ε' → ε} (others : ∀ reason, ¬ refusal (describe reason))
    (outcome : Except ε' α) : Avoids refusal (outcome.mapError describe) := by
  cases outcome with
  | ok value => exact ok value
  | error reason => exact error (others reason)

end Avoids

end Outcome
