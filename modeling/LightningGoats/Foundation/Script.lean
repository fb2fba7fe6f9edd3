import Mathlib.Data.List.Basic

/-! # Scripts that can be interrupted

A script is a sequence of actions on a shared state. Before any of its actions
it can fail or be killed; a schedule of fates says which. The states that its
actions leave behind are kept, so that what holds at all times can be stated.
The rules are those of a program logic with a crash condition: one rule for
each way to build a script.
-/

namespace Interruptible

/-- What becomes of the next action. A script that dies does not clean up. -/
inductive Fate
  | proceeds
  | fails
  | dies
  deriving DecidableEq, Repr

inductive Stop (Failure : Type)
  | raised (failure : Failure)
  | died
  deriving DecidableEq, Repr

structure World (State : Type) where
  state : State
  fates : List Fate
  visited : List State

def World.start {State : Type} (state : State) (fates : List Fate) : World State :=
  ⟨state, fates, []⟩

/-- Actions on a `State` that raise a `Failure` or return a `Result`. -/
def Script (State Failure Result : Type) : Type :=
  World State → Except (Stop Failure) Result × World State

namespace Script

variable {State Failure Result Other : Type}

instance : Monad (Script State Failure) where
  pure result := fun world => (.ok result, world)
  bind first rest := fun world =>
    match first world with
    | (.ok result, after) => rest result after
    | (.error stop, after) => (.error stop, after)

def raise (failure : Failure) : Script State Failure Result :=
  fun world => (.error (.raised failure), world)

def attempt (failure : Failure) : Script State Failure Unit := fun world =>
  match world.fates with
  | [] => (.ok (), world)
  | .proceeds :: rest => (.ok (), { world with fates := rest })
  | .fails :: rest => (.error (.raised failure), { world with fates := rest })
  | .dies :: rest => (.error .died, { world with fates := rest })

def look (view : State → Except Failure Result) : Script State Failure Result := fun world =>
  match view world.state with
  | .ok result => (.ok result, world)
  | .error failure => (.error (.raised failure), world)

def act (change : State → Except Failure (Result × State)) : Script State Failure Result :=
  fun world =>
    match change world.state with
    | .ok (result, next) =>
        (.ok result, { world with state := next, visited := world.visited ++ [next] })
    | .error failure => (.error (.raised failure), world)

def require (condition : Bool) (failure : Failure) : Script State Failure Unit :=
  if condition then pure () else raise failure

/-- Clean up after `body` has returned or raised, but not after it has died. -/
def cleanly (body : Script State Failure Result) (cleanup : Script State Failure Unit) :
    Script State Failure Result := fun world =>
  match body world with
  | (.error .died, after) => (.error .died, after)
  | (outcome, after) =>
      match cleanup after with
      | (.ok _, final) => (outcome, final)
      | (.error stop, final) => (.error stop, final)

/-! ## The crash condition -/

def Ends (always : State → Prop) (after : Result → State → Prop) :
    Except (Stop Failure) Result → State → Prop
  | .ok result, state => after result state
  | .error _, state => always state

/-- From a state in `before`, every state the script leaves behind, and the one it is stopped
in, satisfies `always`; a result it returns satisfies `after`. -/
def Guarantees (always before : State → Prop) (script : Script State Failure Result)
    (after : Result → State → Prop) : Prop :=
  ∀ world, before world.state →
    (∃ added, (script world).2.visited = world.visited ++ added ∧
      ∀ state ∈ added, always state) ∧
    Ends always after (script world).1 (script world).2.state

/-- From a state in `before`, the script returns if it is never interrupted. -/
def Returns (before : State → Prop) (script : Script State Failure Result)
    (after : Result → State → Prop) : Prop :=
  ∀ world, world.fates = [] → before world.state →
    (script world).2.fates = [] ∧
      ∃ result, (script world).1 = .ok result ∧ after result (script world).2.state

section Rules

variable {always before : State → Prop} {after : Result → State → Prop}
  {final : Other → State → Prop} {script body : Script State Failure Result}
  {rest : Result → Script State Failure Other} {failure : Failure}

namespace Guarantees

theorem weaken {always' before' : State → Prop} {after' : Result → State → Prop}
    (guarantees : Guarantees always before script after)
    (weaker : ∀ state, always state → always' state)
    (stronger : ∀ state, before' state → before state)
    (later : ∀ result state, after result state → after' result state) :
    Guarantees always' before' script after' := by
  intro world holds
  rcases guarantees world (stronger _ holds) with ⟨⟨added, visited, kept⟩, outcome⟩
  refine ⟨⟨added, visited, fun state member => weaker state (kept state member)⟩, ?_⟩
  revert outcome
  cases (script world).1 with
  | ok result => exact later result _
  | error stop => exact weaker _

theorem given {fact : Prop} (guarantees : fact → Guarantees always before script after) :
    Guarantees always (fun state => fact ∧ before state) script after :=
  fun world holds => guarantees holds.1 world holds.2

theorem absurd (never : ∀ state, ¬ before state) : Guarantees always before script after :=
  fun _ holds => (never _ holds).elim

theorem each (guarantees : ∀ state, before state → Guarantees always (· = state) script after) :
    Guarantees always before script after :=
  fun world holds => guarantees world.state holds world rfl

theorem pure {result : Result} (holds : ∀ state, before state → after result state) :
    Guarantees always before (pure result : Script State Failure Result) after :=
  fun _ start => ⟨⟨[], (List.append_nil _).symm, nofun⟩, holds _ start⟩

theorem bind (first : Guarantees always before script after)
    (second : ∀ result, Guarantees always (after result) (rest result) final) :
    Guarantees always before (script >>= rest) final := by
  intro world holds
  have ran : (script >>= rest) world =
      match script world with
      | (.ok result, next) => rest result next
      | (.error stop, next) => (.error stop, next) := rfl
  have one := first world holds
  rw [ran]
  revert one
  rcases script world with ⟨stop | result, next⟩
  · exact fun one => one
  · rintro ⟨⟨added, visited, kept⟩, returned⟩
    rcases second result next returned with ⟨⟨more, visitedMore, keptMore⟩, outcome⟩
    refine ⟨⟨added ++ more, ?_, fun state member => ?_⟩, outcome⟩
    · rw [← List.append_assoc, ← visited]
      exact visitedMore
    · exact (List.mem_append.mp member).elim (kept state) (keptMore state)

theorem raise (holds : ∀ state, before state → always state) :
    Guarantees always before (raise failure : Script State Failure Result) after :=
  fun _ start => ⟨⟨[], (List.append_nil _).symm, nofun⟩, holds _ start⟩

theorem attempt (holds : ∀ state, before state → always state) :
    Guarantees always before (attempt failure) fun _ state => before state := by
  intro world start
  unfold Script.attempt
  split
  · exact ⟨⟨[], (List.append_nil _).symm, nofun⟩, start⟩
  · exact ⟨⟨[], (List.append_nil _).symm, nofun⟩, start⟩
  · exact ⟨⟨[], (List.append_nil _).symm, nofun⟩, holds _ start⟩
  · exact ⟨⟨[], (List.append_nil _).symm, nofun⟩, holds _ start⟩

theorem look {view : State → Except Failure Result} (holds : ∀ state, before state → always state)
    (viewed : ∀ state result, before state → view state = .ok result → after result state) :
    Guarantees always before (look view) after := by
  intro world start
  unfold Script.look
  split
  · rename_i result found
    exact ⟨⟨[], (List.append_nil _).symm, nofun⟩, viewed _ _ start found⟩
  · exact ⟨⟨[], (List.append_nil _).symm, nofun⟩, holds _ start⟩

theorem act {change : State → Except Failure (Result × State)}
    (holds : ∀ state, before state → always state)
    (changed : ∀ state result next, before state → change state = .ok (result, next) →
      always next ∧ after result next) :
    Guarantees always before (act change) after := by
  intro world start
  unfold Script.act
  split
  · rename_i result next found
    have kept := changed _ _ _ start found
    refine ⟨⟨[next], rfl, fun state member => ?_⟩, kept.2⟩
    rw [List.mem_singleton.mp member]
    exact kept.1
  · exact ⟨⟨[], (List.append_nil _).symm, nofun⟩, holds _ start⟩

theorem require {condition : Bool} (holds : ∀ state, before state → always state) :
    Guarantees always before (require condition failure)
      fun _ state => before state ∧ condition = true := by
  cases condition with
  | true => exact pure fun _ start => ⟨start, rfl⟩
  | false => exact raise holds

theorem still (holds : ∀ state, before state → always state)
    (unchanged : ∀ state, before state → Guarantees (· = state) (· = state) script
      fun result next => after result state ∧ next = state) :
    Guarantees always before script after := by
  refine each fun state start => (unchanged state start).weaken ?_ (fun _ same => same) ?_
  · rintro _ rfl
    exact holds _ start
  · rintro result _ ⟨later, rfl⟩
    exact later

/-- The cleanup finds the state that the body returned in, or any state in `always`. -/
theorem cleanly {cleanup : Script State Failure Unit} {middle : Result → State → Prop}
    (first : Guarantees always before body middle)
    (returned : ∀ result, Guarantees always (middle result) cleanup fun _ => after result)
    (raised : Guarantees always always cleanup fun _ => always) :
    Guarantees always before (cleanly body cleanup) after := by
  intro world start
  have one := first world start
  have joined : ∀ {added more : List State} {last : List State},
      (body world).2.visited = world.visited ++ added → (∀ state ∈ added, always state) →
      last = (body world).2.visited ++ more → (∀ state ∈ more, always state) →
      ∃ all, last = world.visited ++ all ∧ ∀ state ∈ all, always state := by
    intro added more last visited kept isLast keptMore
    refine ⟨added ++ more, by rw [isLast, visited, List.append_assoc], fun state member => ?_⟩
    exact (List.mem_append.mp member).elim (kept state) (keptMore state)
  unfold Script.cleanly
  revert one joined
  rcases body world with ⟨(failure | _) | result, next⟩
  · rintro ⟨⟨added, visited, kept⟩, stopped⟩ joined
    rcases raised next stopped with ⟨⟨more, visitedMore, keptMore⟩, cleaned⟩
    have all := joined visited kept visitedMore keptMore
    revert cleaned all
    dsimp only
    rcases cleanup next with ⟨stop | _, last⟩
    · exact fun cleaned all => ⟨all, cleaned⟩
    · exact fun cleaned all => ⟨all, cleaned⟩
  · exact fun one _ => one
  · rintro ⟨⟨added, visited, kept⟩, ended⟩ joined
    rcases returned result next ended with ⟨⟨more, visitedMore, keptMore⟩, cleaned⟩
    have all := joined visited kept visitedMore keptMore
    revert cleaned all
    dsimp only
    rcases cleanup next with ⟨stop | _, last⟩
    · exact fun cleaned all => ⟨all, cleaned⟩
    · exact fun cleaned all => ⟨all, cleaned⟩

end Guarantees

namespace Returns

theorem given {fact : Prop} (returns : fact → Returns before script after) :
    Returns (fun state => fact ∧ before state) script after :=
  fun world calm holds => returns holds.1 world calm holds.2

theorem pure {result : Result} (holds : ∀ state, before state → after result state) :
    Returns before (pure result : Script State Failure Result) after :=
  fun _ calm start => ⟨calm, result, rfl, holds _ start⟩

theorem bind (first : Returns before script after)
    (second : ∀ result, Returns (after result) (rest result) final) :
    Returns before (script >>= rest) final := by
  intro world calm start
  rcases first world calm start with ⟨stillCalm, result, returned, holds⟩
  have ran : (script >>= rest) world = rest result (script world).2 := by
    have steps : (script >>= rest) world =
        match script world with
        | (.ok result, next) => rest result next
        | (.error stop, next) => (.error stop, next) := rfl
    rw [steps]
    revert returned
    rcases script world with ⟨outcome, next⟩
    rintro rfl
    rfl
  rw [ran]
  exact second result _ stillCalm holds

theorem attempt : Returns before (attempt failure) fun _ state => before state := by
  intro world calm start
  rw [Script.attempt, calm]
  exact ⟨calm, (), rfl, start⟩

theorem look {view : State → Except Failure Result}
    (viewed : ∀ state, before state → ∃ result, view state = .ok result ∧ after result state) :
    Returns before (look view) after := by
  intro world calm start
  rcases viewed _ start with ⟨result, found, holds⟩
  rw [Script.look, found]
  exact ⟨calm, result, rfl, holds⟩

theorem require {condition : Bool} (holds : condition = true) :
    Returns before (require condition failure) fun _ state => before state := by
  rw [Script.require, if_pos holds]
  exact pure fun _ start => start

end Returns

end Rules

end Script

end Interruptible
