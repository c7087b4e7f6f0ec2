import Thermometer.Lib.Ring
import Thermometer.Wire

namespace Thermometer.Firmware
open Wire

structure HistoryRecord where
  sequence : UInt32
  temperatureCentiC : Int16
  dataStatus : DataStatus
  deriving DecidableEq, Repr

-- What `memset` to zero leaves in a slot (`valid` is the value 0).
def HistoryRecord.zeroed : HistoryRecord := ⟨0,0,.valid⟩

-- THERMOMETER_HISTORY_CAPACITY: the shared configuration is accepted only with a
-- positive capacity that fits a uint16_t.
structure Capacity where
  size : Nat
  positive : 0 < size
  fits : size ≤ 65535

theorem three_positive : 0 < 3 := by decide

def Capacity.three : Capacity := ⟨3,three_positive,by decide⟩

variable {c : Capacity}

-- `(uint16_t)(n % THERMOMETER_HISTORY_CAPACITY)`, the only way an index is made.
def wrapIndex (c : Capacity) (n : Nat) : UInt16 := (n % c.size).toUInt16

@[simp] theorem wrapIndex_toNat : (wrapIndex c n).toNat = n % c.size := by
  have below : n % c.size < c.size := Nat.mod_lt _ c.positive
  have fits := c.fits
  simp only [wrapIndex,Nat.toUInt16_eq,UInt16.toNat_ofNat']
  omega

theorem wrapIndex_lt (c : Capacity) (n : Nat) : (wrapIndex c n).toNat < c.size := by
  rw [wrapIndex_toNat]; exact Nat.mod_lt _ c.positive

structure HistoryBuffer (c : Capacity) where
  records : Vector HistoryRecord c.size
  nextIndex : UInt16
  count : UInt16
  nextInside : nextIndex.toNat < c.size
  countBounded : count.toNat ≤ c.size

namespace HistoryBuffer

variable {buffer : HistoryBuffer c}

def init (c : Capacity) : HistoryBuffer c where
  records := .replicate c.size .zeroed
  nextIndex := 0
  count := 0
  nextInside := c.positive
  countBounded := Nat.zero_le _

-- The sums are formed in `unsigned int` and cannot wrap there.
def oldestIndex (buffer : HistoryBuffer c) : UInt16 :=
  wrapIndex c (buffer.nextIndex.toNat + c.size - buffer.count.toNat)

def append (buffer : HistoryBuffer c) (record : HistoryRecord) : HistoryBuffer c where
  records := buffer.records.set buffer.nextIndex.toNat record buffer.nextInside
  nextIndex := wrapIndex c (buffer.nextIndex.toNat + 1)
  count := if buffer.count.toNat < c.size then buffer.count + 1 else buffer.count
  nextInside := wrapIndex_lt c _
  countBounded := by
    have fits := c.fits
    have bounded := buffer.countBounded
    split
    · rw [UInt16.toNat_add]
      have one : (1 : UInt16).toNat = 1 := rfl
      omega
    · exact bounded

def recordAt (buffer : HistoryBuffer c) (n : Nat) : HistoryRecord :=
  have inside := wrapIndex_lt c n
  buffer.records[(wrapIndex c n).toNat]

def oldestSequence (buffer : HistoryBuffer c) : UInt32 :=
  if buffer.count = 0 then 0 else (buffer.recordAt buffer.oldestIndex.toNat).sequence

-- The search loop: the first offset whose record carries the sequence, or `count`.
def findStart (buffer : HistoryBuffer c) (startSequence : UInt32) : Nat → Nat → Nat
  | offset,0 => offset
  | offset,rest + 1 =>
    if (buffer.recordAt (buffer.oldestIndex.toNat + offset)).sequence = startSequence then offset
    else findStart buffer startSequence (offset + 1) rest

-- `none` is the result `false`, which always comes with a copied count of zero.
def copy (buffer : HistoryBuffer c) (startSequence : UInt32) (requestedCount : Nat) :
    Option (List HistoryRecord) :=
  let startOffset := buffer.findStart startSequence 0 buffer.count.toNat
  if startOffset = buffer.count.toNat then none
  else
    let available := buffer.count.toNat - startOffset
    let count := if requestedCount < available then requestedCount else available
    if 0 < count then
      some ((List.range count).map fun offset =>
        buffer.recordAt (buffer.oldestIndex.toNat + startOffset + offset))
    else none

def contents (buffer : HistoryBuffer c) : List HistoryRecord :=
  Ring.window buffer.recordAt c.size buffer.oldestIndex.toNat buffer.count.toNat

@[simp] theorem contents_length : buffer.contents.length = buffer.count.toNat := by simp [contents]

@[simp] theorem recordAt_mod : buffer.recordAt (n % c.size) = buffer.recordAt n := by
  simp [recordAt]

theorem contents_getElem (inside : i < buffer.contents.length) :
    buffer.contents[i] = buffer.recordAt (buffer.oldestIndex.toNat + i) := by
  simp [contents]

theorem init_contents : (init c).contents = [] := rfl

theorem oldestIndex_lt : buffer.oldestIndex.toNat < c.size := wrapIndex_lt c _

theorem next_slot : (buffer.oldestIndex.toNat + buffer.count.toNat) % c.size = buffer.nextIndex.toNat := by
  have bounded := buffer.countBounded
  have inside := buffer.nextInside
  rw [oldestIndex,wrapIndex_toNat,Nat.mod_add_mod,Nat.sub_add_cancel (by omega),Nat.add_mod_right,
    Nat.mod_eq_of_lt inside]

theorem append_recordAt :
    (fun n => (buffer.append record).recordAt (n % c.size)) =
      fun n => Function.update buffer.recordAt buffer.nextIndex.toNat record (n % c.size) := by
  funext n
  simp only [recordAt,append,wrapIndex_toNat,Nat.mod_mod,Function.update_apply,Vector.getElem_set]
  simp only [eq_comm]

theorem append_contents (buffer : HistoryBuffer c) (record : HistoryRecord) :
    (buffer.append record).contents = Ring.pushBounded c.size buffer.contents record := by
  have bounded := buffer.countBounded
  have fits := c.fits
  have slot := @next_slot c buffer
  rw [contents,Ring.window_congr append_recordAt]
  by_cases room : buffer.count.toNat < c.size
  · have counted : (buffer.append record).count.toNat = buffer.count.toNat + 1 := by
      have one : (1 : UInt16).toNat = 1 := rfl
      simp only [append,room,if_true,UInt16.toNat_add,one]
      omega
    have same : (buffer.append record).oldestIndex = buffer.oldestIndex := by
      have step : (buffer.nextIndex.toNat + 1) % c.size + c.size - (buffer.count.toNat + 1) =
          (buffer.nextIndex.toNat + 1) % c.size + (c.size - (buffer.count.toNat + 1)) := by omega
      apply UInt16.toNat_inj.mp
      rw [oldestIndex,wrapIndex_toNat,counted]
      simp only [append,wrapIndex_toNat]
      rw [step,Nat.mod_add_mod,oldestIndex,wrapIndex_toNat]
      congr 1
      omega
    rw [counted,same,← slot,Ring.window_push_room room,Ring.pushBounded_room (by simpa using room)]
    rfl
  · have full : buffer.count.toNat = c.size := by omega
    have head : buffer.oldestIndex.toNat = buffer.nextIndex.toNat := by
      rw [← slot,full,Nat.add_mod_right,Nat.mod_eq_of_lt oldestIndex_lt]
    have counted : (buffer.append record).count.toNat = c.size := by
      simp [append,full]
    have moved : (buffer.append record).oldestIndex.toNat = (buffer.nextIndex.toNat + 1) % c.size := by
      rw [oldestIndex,wrapIndex_toNat,counted,Nat.add_sub_cancel]
      simp [append]
    rw [counted,moved,Ring.window_push_full c.positive buffer.nextInside,
      Ring.pushBounded_full (by simpa using full) c.positive,contents,head,full]

theorem contents_drop (inside : offset < buffer.count.toNat) :
    buffer.contents.drop offset =
      buffer.recordAt (buffer.oldestIndex.toNat + offset) :: buffer.contents.drop (offset + 1) := by
  have bound : offset < buffer.contents.length := by simpa using inside
  rw [List.drop_eq_getElem_cons bound,contents_getElem bound]

-- Induction on the offsets still to be inspected: the loop is a search of the
-- represented list from its current offset on.
theorem findStart_contents (offset rest : Nat) (total : offset + rest = buffer.count.toNat) :
    buffer.findStart startSequence offset rest =
      offset + (buffer.contents.drop offset).findIdx (·.sequence == startSequence) := by
  induction rest generalizing offset with
  | zero => rw [findStart,List.drop_of_length_le (by simp; omega)]; rfl
  | succ rest ih =>
    rw [findStart,contents_drop (by omega),List.findIdx_cons]
    by_cases found : (buffer.recordAt (buffer.oldestIndex.toNat + offset)).sequence = startSequence
    · simp [found]
    · rw [ih (offset + 1) (by omega)]
      simp only [found,if_false,beq_eq_false_iff_ne.mpr found,cond_false]
      omega

theorem copy_contents (buffer : HistoryBuffer c) (startSequence : UInt32) (requestedCount : Nat) :
    let start := buffer.contents.findIdx (·.sequence == startSequence)
    buffer.copy startSequence requestedCount =
      if start = buffer.contents.length ∨ requestedCount = 0 then none
      else some ((buffer.contents.drop start).take requestedCount) := by
  intro start
  have search : buffer.findStart startSequence 0 buffer.count.toNat = start := by
    have found : buffer.findStart startSequence 0 buffer.count.toNat = _ := findStart_contents 0 buffer.count.toNat (by omega)
    simpa using found
  have within : start ≤ buffer.count.toNat := by
    have bounded : start ≤ buffer.contents.length := List.findIdx_le_length
    simpa using bounded
  simp only [copy,search,contents_length]
  by_cases missing : start = buffer.count.toNat
  · simp [missing]
  · by_cases none : requestedCount = 0
    · have empty : ¬ 0 < (if requestedCount < buffer.count.toNat - start then requestedCount
          else buffer.count.toNat - start) := by
        split <;> omega
      simp only [none,or_true,if_true,missing,if_false] at empty ⊢
      rw [if_neg empty]
    · have positive : 0 < min requestedCount (buffer.count.toNat - start) := by omega
      have clamp : (if requestedCount < buffer.count.toNat - start then requestedCount
          else buffer.count.toNat - start) = min requestedCount (buffer.count.toNat - start) := by
        split <;> omega
      simp only [missing,none,if_false,or_self,clamp,positive,if_true,Option.some.injEq]
      refine List.ext_getElem (by simp) fun i _ right => ?_
      have inside : start + i < buffer.contents.length := by simp at right ⊢; omega
      rw [List.getElem_take,List.getElem_drop,contents_getElem inside]
      simp [Nat.add_assoc]

end HistoryBuffer
end Thermometer.Firmware
