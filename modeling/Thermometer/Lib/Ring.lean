import Thermometer.Lib.Wrapping
import Mathlib.Logic.Function.Basic
import Mathlib.Tactic.Common

namespace Thermometer.Ring

-- The abstract queue: at most `capacity` entries, the oldest one leaves first.
def pushBounded (capacity : Nat) (queue : List α) (entry : α) : List α :=
  (queue ++ [entry]).drop (queue.length + 1 - capacity)

theorem pushBounded_room (room : queue.length < capacity) :
    pushBounded capacity queue entry = queue ++ [entry] := by
  have none : queue.length + 1 - capacity = 0 := by omega
  rw [pushBounded,none,List.drop_zero]

theorem pushBounded_full (full : queue.length = capacity) (positive : 0 < capacity) :
    pushBounded capacity queue entry = queue.tail ++ [entry] := by
  cases queue with
  | nil => simp at full; omega
  | cons oldest rest =>
    have one : (oldest :: rest).length + 1 - capacity = 1 := by omega
    rw [pushBounded,one]; rfl

theorem pushBounded_length (bounded : queue.length ≤ capacity) (positive : 0 < capacity) :
    (pushBounded capacity queue entry).length = min (queue.length + 1) capacity := by
  simp only [pushBounded,List.length_drop,List.length_append,List.length_singleton]
  omega

-- The concrete queue: `count` cells from `head` on, addressed cyclically.
def window (cells : Nat → α) (capacity head count : Nat) : List α :=
  (List.range count).map fun i => cells ((head + i) % capacity)

@[simp] theorem window_length : (window cells capacity head count).length = count := by simp [window]

@[simp] theorem window_getElem (h : i < (window cells capacity head count).length) :
    (window cells capacity head count)[i] = cells ((head + i) % capacity) := by simp [window]

theorem window_congr {cells other : Nat → α}
    (agree : (fun n => cells (n % capacity)) = fun n => other (n % capacity)) :
    window cells capacity head count = window other capacity head count :=
  List.map_congr_left fun i _ => congrFun agree (head + i)

theorem window_push_room (room : count < capacity) :
    window (Function.update cells ((head + count) % capacity) entry) capacity head (count + 1) =
      window cells capacity head count ++ [entry] := by
  simp only [window,List.range_succ,List.map_append,List.map_cons,List.map_nil]
  congr 1
  · refine List.map_congr_left fun i member => ?_
    have below : i < count := List.mem_range.mp member
    refine Function.update_of_ne (fun equal => ?_) _ _
    have same := Wrapping.offset_inj (by omega) room equal
    omega
  · simp

-- In a full ring the cell behind the newest entry is the oldest one.
theorem window_push_full (positive : 0 < capacity) (inside : head < capacity) :
    window (Function.update cells head entry) capacity ((head + 1) % capacity) capacity =
      (window cells capacity head capacity).tail ++ [entry] := by
  obtain ⟨rest,rfl⟩ : ∃ rest, capacity = rest + 1 := ⟨capacity - 1,by omega⟩
  have old : (window cells (rest + 1) head (rest + 1)).tail = window cells (rest + 1) (head + 1) rest := by
    simp only [window,List.range_succ_eq_map,List.map_cons,List.tail_cons,List.map_map]
    refine List.map_congr_left fun i _ => ?_
    simp only [Function.comp,Nat.succ_eq_add_one]
    rw [Nat.add_right_comm head 1 i,Nat.add_assoc head i 1]
  rw [old,window,List.range_succ,List.map_append]
  congr 1
  · refine List.map_congr_left fun i member => ?_
    have below : i < rest := List.mem_range.mp member
    rw [Nat.mod_add_mod]
    refine Function.update_of_ne (fun equal => ?_) _ _
    have zero : (head + (1 + i)) % (rest + 1) = (head + 0) % (rest + 1) := by
      rw [← Nat.add_assoc,equal,Nat.add_zero,Nat.mod_eq_of_lt inside]
    have same := Wrapping.offset_inj (by omega) (by omega) zero
    omega
  · have whole : (head + 1 + rest) % (rest + 1) = head := by
      rw [Nat.add_assoc,Nat.add_comm 1 rest,Nat.add_mod_right,Nat.mod_eq_of_lt inside]
    simp [whole]

end Thermometer.Ring
