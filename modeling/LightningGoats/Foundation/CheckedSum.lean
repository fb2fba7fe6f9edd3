import Mathlib.Algebra.Order.BigOperators.Group.List
import Mathlib.Algebra.Order.Group.Int
import Mathlib.Algebra.Ring.Int.Defs

/-! # Sums in a bounded machine integer

A sum taken from left to right that fails as soon as a running total leaves
the range `[lower, upper]`, as an accumulator of fixed width that reports
overflow does.
-/

namespace CheckedSum

variable {lower upper : Int}

def add (lower upper total delta : Int) : Option Int :=
  if lower ≤ total + delta ∧ total + delta ≤ upper then some (total + delta) else none

/-- The running sum of `deltas` from `total`. -/
def sumFrom (lower upper : Int) : Int → List Int → Option Int
  | total, [] => some total
  | total, delta :: rest =>
      (add lower upper total delta).bind fun next => sumFrom lower upper next rest

/-- The sum of `deltas` from zero. -/
def sum (lower upper : Int) (deltas : List Int) : Option Int :=
  sumFrom lower upper 0 deltas

@[simp] theorem sum_nil : sum lower upper [] = some 0 := rfl

@[simp] theorem add_eq_some {total delta result : Int} :
    add lower upper total delta = some result ↔
      result = total + delta ∧ lower ≤ result ∧ result ≤ upper := by
  unfold add
  split
  · rename_i within
    constructor
    · intro equal
      cases equal
      exact ⟨rfl, within⟩
    · rintro ⟨rfl, _⟩
      rfl
  · rename_i outside
    constructor
    · intro impossible
      cases impossible
    · rintro ⟨rfl, within⟩
      exact absurd within outside

theorem sumFrom_append (total : Int) (left right : List Int) :
    sumFrom lower upper total (left ++ right) =
      (sumFrom lower upper total left).bind fun next =>
        sumFrom lower upper next right := by
  induction left generalizing total with
  | nil => rfl
  | cons delta rest induction =>
      simp only [List.cons_append, sumFrom]
      cases add lower upper total delta with
      | none => rfl
      | some next => exact induction next

theorem sum_concat (deltas : List Int) (delta : Int) :
    sum lower upper (deltas ++ [delta]) =
      (sum lower upper deltas).bind fun total => add lower upper total delta := by
  unfold sum
  rw [sumFrom_append]
  cases sumFrom lower upper 0 deltas with
  | none => rfl
  | some total => simp [sumFrom]

theorem sumFrom_eq_some {total result : Int} {deltas : List Int}
    (summed : sumFrom lower upper total deltas = some result) :
    result = total + deltas.sum := by
  induction deltas generalizing total with
  | nil =>
      cases summed
      simp
  | cons delta rest induction =>
      rcases Option.bind_eq_some_iff.mp summed with ⟨next, added, restSummed⟩
      rw [induction restSummed, (add_eq_some.mp added).1, List.sum_cons]
      omega

theorem sum_eq_some {deltas : List Int} {result : Int}
    (summed : sum lower upper deltas = some result) : result = deltas.sum := by
  simpa using sumFrom_eq_some summed

theorem sum_le {deltas : List Int} {result : Int} (upperNonneg : 0 ≤ upper)
    (summed : sum lower upper deltas = some result) : result ≤ upper := by
  suffices general : ∀ total, total ≤ upper →
      sumFrom lower upper total deltas = some result → result ≤ upper from
    general 0 upperNonneg summed
  clear summed
  induction deltas with
  | nil =>
      rintro total bound ⟨⟩
      exact bound
  | cons delta rest induction =>
      intro total _ summed
      rcases Option.bind_eq_some_iff.mp summed with ⟨next, added, restSummed⟩
      exact induction next (add_eq_some.mp added).2.2 restSummed

theorem sum_of_nonneg {deltas : List Int} (lowerNonpos : lower ≤ 0)
    (nonneg : ∀ delta ∈ deltas, 0 ≤ delta) (fits : deltas.sum ≤ upper) :
    sum lower upper deltas = some deltas.sum := by
  suffices general : ∀ total, 0 ≤ total → total + deltas.sum ≤ upper →
      sumFrom lower upper total deltas = some (total + deltas.sum) by
    simpa [sum] using general 0 (Int.le_refl 0) (by simpa using fits)
  clear fits
  induction deltas with
  | nil => intro total _ _; simp [sumFrom]
  | cons delta rest induction =>
      intro total totalNonneg bound
      have headNonneg := nonneg delta List.mem_cons_self
      have restNonneg : 0 ≤ rest.sum := List.sum_nonneg fun value member =>
        nonneg value (List.mem_cons_of_mem _ member)
      simp only [List.sum_cons] at bound ⊢
      have added : add lower upper total delta = some (total + delta) :=
        add_eq_some.mpr ⟨rfl, by omega, by omega⟩
      simp only [sumFrom, added, Option.bind_some]
      rw [induction (fun value member => nonneg value (List.mem_cons_of_mem _ member))
        (total + delta) (by omega) (by omega)]
      congr 1
      omega

end CheckedSum
