import Mathlib.Data.List.Basic
import Mathlib.Data.List.Nodup
import Mathlib.Data.Nat.ModEq
import Mathlib.Tactic.Common

namespace Thermometer.Wrapping

-- `n` successive numbers of a counter that wraps at `M`, beginning at `start`.
def span (M start n : Nat) : List Nat := (List.range n).map fun i => (start + i) % M

@[simp] theorem span_zero : span M start 0 = [] := rfl

@[simp] theorem span_length : (span M start n).length = n := by simp [span]

@[simp] theorem span_getElem (h : i < (span M start n).length) : (span M start n)[i] = (start + i) % M := by
  simp [span]

theorem mem_span : x ∈ span M start n ↔ ∃ i, i < n ∧ x = (start + i) % M := by
  simp only [span,List.mem_map,List.mem_range,eq_comm]

theorem span_mod : span M (start % M) n = span M start n := by
  simp [span]

theorem span_add : span M start (m + n) = span M start m ++ span M (start + m) n := by
  simp only [span,List.range_add,List.map_append,List.map_map]
  congr 1
  exact List.map_congr_left fun i _ => by simp [Nat.add_assoc]

theorem span_succ : span M start (n + 1) = span M start n ++ [(start + n) % M] := by
  rw [span_add]; rfl

theorem span_cons : span M start (n + 1) = start % M :: span M (start + 1) n := by
  rw [Nat.add_comm n 1,span_add]; rfl

theorem span_piece : ((span M start n).drop k).take m = span M (start + k) (min m (n - k)) := by
  apply List.ext_getElem
  · simp
  · intro i left right
    simp [Nat.add_assoc]

theorem offset_inj {i j M : Nat} (hi : i < M) (hj : j < M) (equal : (start + i) % M = (start + j) % M) :
    i = j := by
  have congruent : i ≡ j [MOD M] := Nat.ModEq.add_left_cancel' start equal
  exact (Nat.ModEq.eq_of_lt_of_lt congruent hi hj)

theorem span_nodup (bounded : n ≤ M) : (span M start n).Nodup := by
  refine List.Nodup.map_on ?_ List.nodup_range
  intro i hi j hj equal
  rw [List.mem_range] at hi hj
  exact offset_inj (by omega) (by omega) equal

-- Searching records numbered by a span for a number of it finds that very record.
theorem findIdx_span {records : List α} {number : α → Nat} (numbered : records.map number = span M start n)
    (bounded : n ≤ M) (inside : offset < n) :
    records.findIdx (fun record => number record == (start + offset) % M) = offset := by
  have size : records.length = n := by simpa using congrArg List.length numbered
  have numbers : ∀ i (h : i < records.length), number records[i] = (start + i) % M := by
    intro i h
    have entry := congrArg (fun numbers => numbers[i]?) numbered
    have below : i < (span M start n).length := by rw [span_length,← size]; exact h
    simpa [h,List.getElem?_eq_getElem below] using entry
  rw [List.findIdx_eq (by omega)]
  refine ⟨by simp [numbers offset (by omega)],fun i below => ?_⟩
  rw [numbers i (by omega),beq_eq_false_iff_ne]
  intro equal
  have same := offset_inj (by omega) (by omega) equal
  omega

end Thermometer.Wrapping
