import Mathlib.Data.Int.Order.Basic
import Mathlib.Data.List.Basic
import Mathlib.Data.List.Induction

/-! # Arrivals in a sliding window

A limiter looks back over a fixed span at every arrival. If it always finds
fewer than `cap` earlier arrivals there, then no window of that span, wherever
it starts, holds more than `cap`.
-/

namespace SlidingWindow

variable {cap : Nat} {span : Int} {times : List Int}

/-- The arrivals in the closed window of `span` from `start`. -/
def within (start span : Int) (times : List Int) : List Int :=
  times.filter fun time => start ≤ time ∧ time ≤ start + span

/-- Every arrival finds fewer than `cap` earlier ones in the span before it. -/
def Capped (cap : Nat) (span : Int) (times : List Int) : Prop :=
  ∀ earlier time later, times = earlier ++ time :: later →
    (earlier.filter fun arrival => time - span ≤ arrival).length < cap

theorem capped_nil : Capped cap span [] := by
  intro earlier time later split
  simp at split

theorem Capped.concat (capped : Capped cap span times) {time : Int}
    (room : (times.filter fun arrival => time - span ≤ arrival).length < cap) :
    Capped cap span (times ++ [time]) := by
  intro earlier arrival later split
  rcases List.eq_nil_or_concat later with rfl | ⟨front, last, rfl⟩
  · rcases List.append_inj' split rfl with ⟨rfl, sameTime⟩
    cases sameTime
    exact room
  · have rearranged : times ++ [time] = (earlier ++ arrival :: front) ++ [last] := by
      rw [split]
      simp
    exact capped earlier arrival front (List.append_inj' rearranged rfl).1

theorem Capped.within_le (capped : Capped cap span times) (start : Int) :
    (within start span times).length ≤ cap := by
  induction times using List.reverseRecOn with
  | nil => simp [within]
  | append_singleton times time induction =>
      have room := capped times time [] rfl
      have earlier : Capped cap span times := fun front arrival later split =>
        capped front arrival (later ++ [time]) (by simp [split])
      rw [within, List.filter_append, List.length_append]
      by_cases inside : start ≤ time ∧ time ≤ start + span
      · have counted : (within start span times).length ≤
            (times.filter fun arrival => time - span ≤ arrival).length := by
          refine (List.monotone_filter_right times fun arrival isInside => ?_).length_le
          simp only [decide_eq_true_eq] at isInside ⊢
          omega
        rw [within] at counted
        simp only [inside, and_self, decide_true, List.filter_cons_of_pos, List.filter_nil,
          List.length_singleton]
        omega
      · have outside : ([time].filter fun time =>
            decide (start ≤ time ∧ time ≤ start + span)) = [] := by
          simpa using inside
        rw [outside]
        exact induction earlier

end SlidingWindow
