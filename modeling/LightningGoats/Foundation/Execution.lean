import Mathlib.Logic.Relation
import Mathlib.Data.List.Basic

/-! # Runs of labelled transition systems

A system is a relation `step before label after`. A run is a finite sequence
of steps, with the labels in the order in which they happened. The rules here
are the ones a safety proof needs: invariants, quantities that only grow,
facts that hold forever once they hold, and what must have happened earlier
for something to be true now.
-/

namespace Execution

variable {State : Type u} {Label : Type v}

inductive Run (step : State → Label → State → Prop) :
    State → List Label → State → Prop
  | nil (state : State) : Run step state [] state
  | cons {before middle after : State} {label : Label} {labels : List Label} :
      step before label middle → Run step middle labels after →
      Run step before (label :: labels) after

namespace Run

variable {step : State → Label → State → Prop}
  {before middle after : State} {label : Label} {labels left right : List Label}

theorem single (first : step before label after) : Run step before [label] after :=
  .cons first (.nil _)

theorem append (first : Run step before left middle)
    (second : Run step middle right after) : Run step before (left ++ right) after := by
  induction first with
  | nil => exact second
  | cons one _ induction => exact .cons one (induction second)

theorem append_iff :
    Run step before (left ++ right) after ↔
      ∃ middle, Run step before left middle ∧ Run step middle right after := by
  constructor
  · intro run
    induction left generalizing before with
    | nil => exact ⟨before, .nil _, run⟩
    | cons label rest induction =>
        cases run with
        | cons one remaining =>
            rcases induction remaining with ⟨middle, first, second⟩
            exact ⟨middle, .cons one first, second⟩
  · rintro ⟨middle, first, second⟩
    exact first.append second

theorem cons_iff :
    Run step before (label :: labels) after ↔
      ∃ middle, step before label middle ∧ Run step middle labels after := by
  constructor
  · intro run
    cases run with
    | cons one rest => exact ⟨_, one, rest⟩
  · rintro ⟨middle, one, rest⟩
    exact .cons one rest

@[simp] theorem nil_iff : Run step before [] after ↔ before = after := by
  constructor
  · intro run
    cases run
    rfl
  · rintro rfl
    exact .nil _

theorem at_split (run : Run step before (left ++ label :: right) after) :
    ∃ source target, Run step before left source ∧ step source label target ∧
      Run step target right after := by
  rcases append_iff.mp run with ⟨source, first, rest⟩
  rcases cons_iff.mp rest with ⟨target, one, last⟩
  exact ⟨source, target, first, one, last⟩

/-- An invariant kept by every step is kept by every run. -/
theorem invariant {property : State → Prop}
    (keeps : ∀ {source label target}, property source → step source label target →
      property target)
    (run : Run step before labels after) (holds : property before) : property after := by
  induction run with
  | nil => exact holds
  | cons one _ induction => exact induction (keeps holds one)

/-- An invariant kept by the steps whose labels are allowed is kept by every
run that uses only such labels. -/
theorem invariant_of_allowed {property : State → Prop} {allowed : Label → Prop}
    (keeps : ∀ {source label target}, property source → allowed label →
      step source label target → property target)
    (run : Run step before labels after) (labelsAllowed : ∀ label ∈ labels, allowed label)
    (holds : property before) : property after := by
  induction run with
  | nil => exact holds
  | cons one _ induction =>
      exact induction
        (fun label member => labelsAllowed label (List.mem_cons_of_mem _ member))
        (keeps holds (labelsAllowed _ List.mem_cons_self) one)

/-- What every step keeps of a state and the labels before it, every run keeps. -/
theorem history {property : List Label → State → Prop}
    (keeps : ∀ {past source label target}, property past source → step source label target →
      property (past ++ [label]) target)
    (run : Run step before labels after) {past : List Label} (holds : property past before) :
    property (past ++ labels) after := by
  induction run generalizing past with
  | nil =>
      rw [List.append_nil]
      exact holds
  | @cons _ _ _ label labels one _ induction =>
      have rearranged : past ++ label :: labels = (past ++ [label]) ++ labels := by simp
      rw [rearranged]
      exact induction (keeps holds one)

/-- A reflexive and transitive relation between the ends of every step relates
the ends of every run. -/
theorem relates {relation : State → State → Prop}
    (reflexive : ∀ state, relation state state)
    (transitive : ∀ {first second third}, relation first second →
      relation second third → relation first third)
    (stepRelates : ∀ {source label target}, step source label target →
      relation source target)
    (run : Run step before labels after) : relation before after := by
  induction run with
  | nil => exact reflexive _
  | cons one _ induction => exact transitive (stepRelates one) induction

/-- A property that was false before a run and is true after it was
established by some step of the run. -/
theorem established {property : State → Prop}
    (run : Run step before labels after) (absent : ¬ property before)
    (present : property after) :
    ∃ left label right source target, labels = left ++ label :: right ∧
      Run step before left source ∧ step source label target ∧
      Run step target right after ∧ ¬ property source ∧ property target := by
  induction run with
  | nil => exact absurd present absent
  | @cons before middle after label labels one rest induction =>
      by_cases reached : property middle
      · exact ⟨[], label, labels, before, middle, rfl, .nil _, one, rest, absent, reached⟩
      · rcases induction reached present with
          ⟨left, found, right, source, target, equal, first, taken, last, was, is⟩
        exact ⟨label :: left, found, right, source, target, by rw [equal]; rfl,
          .cons one first, taken, last, was, is⟩

end Run

end Execution
