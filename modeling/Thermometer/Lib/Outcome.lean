import Mathlib.Tactic.Common

-- Computations that raise: what holds of the value, and which errors are declared.
namespace Thermometer.Outcome

variable {ε α β : Type} {declared : ε → Prop} {holds : α → Prop} {follows : β → Prop}

def Meets (declared : ε → Prop) (holds : α → Prop) : Except ε α → Prop
  | .ok value => holds value
  | .error failure => declared failure

theorem Meets.ok (here : holds value) : Meets declared holds (.ok value) := here

theorem Meets.error {failure : ε} (raised : declared failure) : Meets declared holds (.error failure) := raised

theorem Meets.mono {outcome : Except ε α} (meets : Meets declared holds outcome) (weaker : ∀ value, holds value → wider value) :
    Meets declared wider outcome := by
  cases outcome with
  | ok value => exact weaker value meets
  | error failure => exact meets

theorem Meets.bind {outcome : Except ε α} {next : α → Except ε β} (first : Meets declared holds outcome)
    (rest : ∀ value, holds value → Meets declared follows (next value)) : Meets declared follows (outcome >>= next) := by
  cases outcome with
  | ok value => exact rest value first
  | error failure => exact first

theorem Meets.map {outcome : Except ε α} (f : α → β) (meets : Meets declared holds outcome)
    (carried : ∀ value, holds value → follows (f value)) : Meets declared follows (f <$> outcome) := by
  cases outcome with
  | ok value => exact carried value meets
  | error failure => exact meets

theorem Meets.mapM {each : α → Except ε β} (xs : List α) (round : ∀ x ∈ xs, Meets declared follows (each x)) :
    Meets declared (fun ys => ys.length = xs.length ∧ ∀ y ∈ ys, follows y) (xs.mapM each) := by
  induction xs with
  | nil => exact ⟨rfl,by simp⟩
  | cons x rest ih =>
    rw [List.mapM_cons]
    apply Meets.bind (round x List.mem_cons_self)
    intro y first
    apply Meets.bind (ih fun other member => round other (List.mem_cons_of_mem _ member))
    intro ys ⟨length,all⟩
    refine ⟨by rw [List.length_cons,List.length_cons,length],fun z member => ?_⟩
    rcases List.mem_cons.mp member with rfl | behind
    · exact first
    · exact all z behind

end Thermometer.Outcome
