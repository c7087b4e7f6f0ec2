import Mathlib.Data.List.Induction
import Thermometer.Firmware.HistoryBuffer

-- The history buffer over whole runs: the last records that were appended, as many as fit.
namespace Thermometer.Firmware
open Thermometer.Ring

variable {c : Capacity}

-- The abstract queue: nothing is known of the records before the last `capacity` ones.
def lastRecords (capacity : Nat) (records : List α) : List α := records.drop (records.length - capacity)

theorem lastRecords_length (capacity : Nat) (records : List α) :
    (lastRecords capacity records).length = min records.length capacity := by
  rw [lastRecords,List.length_drop]
  omega

theorem pushBounded_lastRecords (capacity : Nat) (records : List α) (record : α) :
    pushBounded capacity (lastRecords capacity records) record = lastRecords capacity (records ++ [record]) := by
  have whole : records.length - capacity + (lastRecords capacity records).length = records.length := by
    rw [lastRecords_length]
    omega
  have dropped : lastRecords capacity records ++ [record] = (records ++ [record]).drop (records.length - capacity) := by
    rw [List.drop_append_of_le_length (Nat.sub_le _ _)]
    rfl
  have length := lastRecords_length capacity records
  rw [pushBounded,dropped,List.drop_drop,length]
  unfold lastRecords
  rw [List.length_append,List.length_singleton]
  congr 1
  omega

namespace HistoryBuffer

variable {buffer : HistoryBuffer c}

structure InRange (buffer : HistoryBuffer c) : Prop where
  next : buffer.nextIndex.toNat < c.size
  count : buffer.count.toNat ≤ c.size
  difference : buffer.count.toNat ≤ buffer.nextIndex.toNat + c.size
  indices : ∀ n, (wrapIndex c n).toNat = n % c.size ∧ n % c.size < c.size ∧ c.size < 2 ^ 16
  increment : buffer.count.toNat < c.size → (buffer.count + 1).toNat = buffer.count.toNat + 1

theorem inRange (buffer : HistoryBuffer c) : InRange buffer := by
  have fits := c.fits
  have bounded := buffer.countBounded
  refine ⟨buffer.nextInside,bounded,by omega,fun n => ⟨wrapIndex_toNat,Nat.mod_lt _ c.positive,by omega⟩,fun room => ?_⟩
  have one : (1 : UInt16).toNat = 1 := rfl
  rw [UInt16.toNat_add,one]
  omega

-- What the functions of history_buffer.c say about the list that a buffer stands for.
structure Represents (buffer : HistoryBuffer c) (records : List HistoryRecord) : Prop where
  contents : buffer.contents = records
  count : buffer.count.toNat = records.length
  oldest : buffer.oldestSequence = (records.head?.map (·.sequence)).getD 0
  copy : ∀ (startSequence : UInt32) (requestedCount : Nat),
    let start := records.findIdx (·.sequence == startSequence)
    buffer.copy startSequence requestedCount =
      if (∀ record ∈ records, record.sequence ≠ startSequence) ∨ requestedCount = 0 then none
      else some ((records.drop start).take requestedCount)

theorem oldestSequence_head (buffer : HistoryBuffer c) :
    buffer.oldestSequence = (buffer.contents.head?.map (·.sequence)).getD 0 := by
  unfold oldestSequence
  split
  · rename_i empty
    have none : buffer.contents = [] := by
      apply List.length_eq_zero_iff.mp
      rw [contents_length,empty]
      rfl
    rw [none]
    rfl
  · rename_i used
    have inside : 0 < buffer.contents.length := by
      rw [contents_length]
      exact Nat.pos_of_ne_zero fun zero => used (UInt16.toNat_inj.mp zero)
    rw [List.head?_eq_getElem?,List.getElem?_eq_getElem inside,contents_getElem]
    rfl

theorem represents_contents (buffer : HistoryBuffer c) : Represents buffer buffer.contents := by
  refine ⟨rfl,contents_length.symm,oldestSequence_head buffer,fun startSequence requestedCount => ?_⟩
  have missing : buffer.contents.findIdx (·.sequence == startSequence) = buffer.contents.length ↔
      ∀ record ∈ buffer.contents, record.sequence ≠ startSequence := by
    rw [List.findIdx_eq_length]
    simp only [beq_eq_false_iff_ne]
  rw [copy_contents]
  dsimp only
  simp only [missing]

end HistoryBuffer

open HistoryBuffer

def appendAll (c : Capacity) (records : List HistoryRecord) : HistoryBuffer c := records.foldl HistoryBuffer.append (.init c)

theorem appendAll_contents (c : Capacity) (records : List HistoryRecord) :
    (appendAll c records).contents = lastRecords c.size records := by
  induction records using List.reverseRecOn with
  | nil =>
    rw [lastRecords,List.drop_nil]
    exact init_contents
  | append_singleton records record ih =>
    have last : appendAll c (records ++ [record]) = (appendAll c records).append record := by
      rw [appendAll,List.foldl_append]
      rfl
    rw [last,append_contents,ih]
    exact pushBounded_lastRecords c.size records record

-- An initialised buffer behaves as the list of the last records, at every fill level.
theorem ring_refines_queue (c : Capacity) (records : List HistoryRecord) :
    let kept := records.drop (records.length - c.size)
    kept.length = min records.length c.size ∧ Represents (appendAll c records) kept ∧ InRange (appendAll c records) := by
  intro kept
  refine ⟨lastRecords_length c.size records,?_,inRange _⟩
  have represents := represents_contents (appendAll c records)
  rw [appendAll_contents] at represents
  exact represents

example : ((appendAll ⟨3,by decide,by decide⟩ ((List.range 5).map fun n => ⟨n.toUInt32,0,.valid⟩)).copy 3 9).map
    (·.map (·.sequence)) = some [3,4] := by decide

end Thermometer.Firmware
