import LightningGoats.Foundation.Execution

/-! # Tasks that share a store

A system is a store and the tasks that work on it. An action of a task is
atomic. The actions of different tasks, and of everybody else who uses the
store, happen in any order, and a crash loses the tasks and keeps the store.

What holds of the store is proved together with what each task relies on: an
action keeps the first, establishes the second for its own task, and changes the
store only in the ways that the other tasks can bear.
-/

namespace Tasks

structure System (Store Task : Type) where
  store : Store
  tasks : List Task

structure Protocol (Store Task Event Other : Type) where
  starts : Task → Prop
  acts : Task → Store → Event → Task → Store → Prop
  others : Store → Other → Store → Prop

inductive Label (Task Event Other : Type)
  | started (task : Task)
  | acted (index : Nat) (task : Task) (event : Event)
  | other (label : Other)
  | crashed

section Systems

variable {Store Task Event Other : Type} {protocol : Protocol Store Task Event Other}

inductive Step (protocol : Protocol Store Task Event Other) :
    System Store Task → Label Task Event Other → System Store Task → Prop
  | started {system : System Store Task} {task : Task} (starts : protocol.starts task) :
      Step protocol system (.started task) ⟨system.store, system.tasks ++ [task]⟩
  | acted {system : System Store Task} {index : Nat} {task next : Task} {event : Event}
      {store : Store} (running : system.tasks[index]? = some task)
      (acts : protocol.acts task system.store event next store) :
      Step protocol system (.acted index task event) ⟨store, system.tasks.set index next⟩
  | other {system : System Store Task} {label : Other} {store : Store}
      (changes : protocol.others system.store label store) :
      Step protocol system (.other label) ⟨store, system.tasks⟩
  | crashed {system : System Store Task} : Step protocol system .crashed ⟨system.store, []⟩

abbrev Run (protocol : Protocol Store Task Event Other) :
    System Store Task → List (Label Task Event Other) → System Store Task → Prop :=
  Execution.Run (Step protocol)

/-- What holds of the store, what each task relies on, and how the store grows. -/
structure Discipline (protocol : Protocol Store Task Event Other) (Good : Store → Prop)
    (Sound : Store → Task → Prop) (Grows : Store → Store → Prop) : Prop where
  refl : ∀ store, Grows store store
  trans : ∀ {first second third}, Grows first second → Grows second third → Grows first third
  stable : ∀ {before after task}, Grows before after → Sound before task → Sound after task
  starts : ∀ {store task}, Good store → protocol.starts task → Sound store task
  acts : ∀ {before after task next event}, Good before → Sound before task →
    protocol.acts task before event next after →
    Good after ∧ Sound after next ∧ Grows before after
  others : ∀ {before after label}, Good before → protocol.others before label after →
    Good after ∧ Grows before after

structure Safe (Good : Store → Prop) (Sound : Store → Task → Prop)
    (system : System Store Task) : Prop where
  good : Good system.store
  sound : ∀ task ∈ system.tasks, Sound system.store task

namespace Discipline

variable {Good : Store → Prop} {Sound : Store → Task → Prop} {Grows : Store → Store → Prop}
  {before after : System Store Task} {label : Label Task Event Other}
  {labels : List (Label Task Event Other)}

theorem step (discipline : Discipline protocol Good Sound Grows) (safe : Safe Good Sound before)
    (step : Step protocol before label after) :
    Safe Good Sound after ∧ Grows before.store after.store := by
  cases step with
  | started starts =>
      refine ⟨⟨safe.good, fun task member => ?_⟩, discipline.refl _⟩
      rcases List.mem_append.mp member with old | new
      · exact safe.sound task old
      · rw [List.mem_singleton.mp new]
        exact discipline.starts safe.good starts
  | acted running acts =>
      have sound := safe.sound _ (List.mem_of_getElem? running)
      rcases discipline.acts safe.good sound acts with ⟨good, next, grows⟩
      refine ⟨⟨good, fun task member => ?_⟩, grows⟩
      rcases List.mem_or_eq_of_mem_set member with old | isNext
      · exact discipline.stable grows (safe.sound task old)
      · rw [isNext]
        exact next
  | other changes =>
      rcases discipline.others safe.good changes with ⟨good, grows⟩
      exact ⟨⟨good, fun task member => discipline.stable grows (safe.sound task member)⟩, grows⟩
  | crashed =>
      refine ⟨⟨safe.good, fun task member => ?_⟩, discipline.refl _⟩
      cases member

theorem run (discipline : Discipline protocol Good Sound Grows) (safe : Safe Good Sound before)
    (run : Run protocol before labels after) :
    Safe Good Sound after ∧ Grows before.store after.store := by
  induction run with
  | nil => exact ⟨safe, discipline.refl _⟩
  | cons one _ induction =>
      rcases discipline.step safe one with ⟨held, first⟩
      rcases induction held with ⟨last, rest⟩
      exact ⟨last, discipline.trans first rest⟩

theorem acted_at (discipline : Discipline protocol Good Sound Grows)
    (safe : Safe Good Sound before) {earlier later : List (Label Task Event Other)}
    {index : Nat} {task : Task} {event : Event}
    (run : Run protocol before (earlier ++ .acted index task event :: later) after) :
    ∃ source target next, Run protocol before earlier source ∧ Safe Good Sound source ∧
      Sound source.store task ∧ protocol.acts task source.store event next target.store ∧
      Sound target.store next ∧ Safe Good Sound target ∧ Run protocol target later after := by
  rcases run.at_split with ⟨source, target, first, one, last⟩
  have held := (discipline.run safe first).1
  have reached := (discipline.step held one).1
  cases one with
  | @acted _ _ next _ _ running acts =>
      have sound := held.sound task (List.mem_of_getElem? running)
      have nextSound := (discipline.acts held.good sound acts).2.1
      exact ⟨source, _, next, first, held, sound, acts, nextSound, reached, last⟩

end Discipline

end Systems

end Tasks
