import Thermometer.Firmware.State
import Thermometer.Lib.Wrapping

namespace Thermometer.Firmware
open Wrapping Wire

variable {cfg : DeviceConfig} {c : Capacity}

-- The ring holds consecutive sequence numbers and the newest one is the counter,
-- both modulo 2^32. With an empty ring the next number is the counter's successor.
def Consecutive (latest : UInt32) (buffer : HistoryBuffer c) : Prop :=
  ∃ oldest, buffer.contents.map (·.sequence.toNat) = span (2 ^ 32) oldest buffer.count.toNat ∧
    (oldest + buffer.count.toNat) % 2 ^ 32 = (latest.toNat + 1) % 2 ^ 32

def RingsConsecutive (s : State cfg) : Prop := ∀ i, Consecutive s.latestSequence (s.sensors i).history

theorem init_consecutive : Consecutive 0 (HistoryBuffer.init c) := ⟨1,rfl,rfl⟩

theorem append_consecutive {buffer : HistoryBuffer c} {record : HistoryRecord}
    (held : Consecutive latest buffer) (numbered : record.sequence = latest + 1) :
    Consecutive (latest + 1) (buffer.append record) := by
  obtain ⟨oldest,sequences,next⟩ := held
  have fits := c.fits
  have counted := buffer.countBounded
  have newest : record.sequence.toNat = (oldest + buffer.count.toNat) % 2 ^ 32 := by
    rw [numbered,UInt32.toNat_add]; exact next.symm
  have length : (buffer.append record).count.toNat = min (buffer.count.toNat + 1) c.size := by
    have pushed := congrArg List.length (buffer.append_contents record)
    rwa [HistoryBuffer.contents_length,Ring.pushBounded_length (by simpa using counted) c.positive,
      HistoryBuffer.contents_length] at pushed
  have successor : (oldest + buffer.count.toNat + 1) % 2 ^ 32 = ((latest + 1).toNat + 1) % 2 ^ 32 := by
    rw [Nat.add_mod,next,UInt32.toNat_add]
    simp
  rcases Nat.lt_or_ge buffer.count.toNat c.size with room | full
  · refine ⟨oldest,?_,by rw [length,Nat.min_eq_left room]; exact successor⟩
    rw [buffer.append_contents,Ring.pushBounded_room (by simpa using room),List.map_append,sequences,length,
      Nat.min_eq_left room,span_succ]
    simp [newest]
  · have whole : buffer.count.toNat = c.size := by omega
    have positive := c.positive
    obtain ⟨rest,split⟩ : ∃ rest, buffer.count.toNat = rest + 1 := ⟨buffer.count.toNat - 1,by omega⟩
    have same : (buffer.append record).count.toNat = rest + 1 := by omega
    refine ⟨oldest + 1,?_,by rw [same,← split,Nat.add_right_comm]; exact successor⟩
    have tail : buffer.contents.tail.map (·.sequence.toNat) = span (2 ^ 32) (oldest + 1) rest := by
      rw [List.map_tail,sequences,split,span_cons,List.tail_cons]
    rw [buffer.append_contents,Ring.pushBounded_full (by simpa using whole) positive,List.map_append,tail,same,
      span_succ]
    simp [newest,split,Nat.add_comm rest 1,Nat.add_assoc]

theorem reading_history (sensor : SensorRuntime cfg.capacity) (reading : SensorReading) :
    (applySensorReading sensor reading).history = sensor.history := by
  unfold applySensorReading
  dsimp only
  split <;> split <;> rfl

theorem setEnabled_history (s : State cfg) (index : Fin sensorCount) (enabled : Bool) (i : Fin sensorCount) :
    ((setEnabled s index enabled).sensors i).history = (s.sensors i).history := by
  by_cases same : i = index
  · subst i; simp [setEnabled]
  · simp [setEnabled,same]

theorem step_rings (s : State cfg) (event : Event) (quiet : event ≠ .tick) :
    (step s event).latestSequence = s.latestSequence ∧
      ∀ i, ((step s event).sensors i).history = (s.sensors i).history := by
  cases event with
  | tick => exact absurd rfl quiet
  | reading index reading =>
    refine ⟨rfl,fun i => ?_⟩
    by_cases same : i = index
    · subst i; simp [step,sensorEvent,reading_history]
    · simp [step,sensorEvent,same]
  | setDisplay sensorId enabled =>
    simp only [step,setDisplay]
    split
    · exact ⟨rfl,fun _ => rfl⟩
    · split
      · exact ⟨rfl,setEnabled_history s _ enabled⟩
      · exact ⟨rfl,fun _ => rfl⟩
  | toggleDisplay sensorId =>
    simp only [step,toggleDisplay]
    split
    · exact ⟨rfl,fun _ => rfl⟩
    · split
      · exact ⟨rfl,setEnabled_history s _ _⟩
      · exact ⟨rfl,fun _ => rfl⟩
  | getCurrent => exact ⟨rfl,fun _ => rfl⟩
  | getHistoryMeta => exact ⟨rfl,fun _ => rfl⟩
  | copyHistory => exact ⟨rfl,fun _ => rfl⟩

theorem step_consecutive {s : State cfg} (held : RingsConsecutive s) (event : Event) :
    RingsConsecutive (step s event) := by
  by_cases due : event = .tick
  · subst due
    exact fun i => append_consecutive (held i) rfl
  · obtain ⟨counter,rings⟩ := step_rings s event due
    intro i
    rw [counter,rings i]
    exact held i

theorem run_consecutive {s : State cfg} (held : RingsConsecutive s) (events : List Event) :
    RingsConsecutive (run s events) := by
  induction events generalizing s with
  | nil => exact held
  | cons event rest ih => exact ih (step_consecutive held event)

theorem started_consecutive (cfg : DeviceConfig) (bootId : UInt32) (events : List Event) :
    RingsConsecutive (run (start cfg bootId) events) :=
  run_consecutive (fun _ => init_consecutive) events

theorem step_frozen (s : State cfg) (event : Event) (other : event ≠ .getHistoryMeta) :
    (step s event).historySnapshot = s.historySnapshot ∧
      (step s event).historySnapshotValid = s.historySnapshotValid := by
  cases event with
  | getHistoryMeta => exact absurd rfl other
  | setDisplay sensorId enabled =>
    simp only [step,setDisplay]
    split
    · exact ⟨rfl,rfl⟩
    · split <;> exact ⟨rfl,rfl⟩
  | toggleDisplay sensorId =>
    simp only [step,toggleDisplay]
    split
    · exact ⟨rfl,rfl⟩
    · split <;> exact ⟨rfl,rfl⟩
  | _ => exact ⟨rfl,rfl⟩

theorem run_frozen (events : List Event) (s : State cfg) (other : Event.getHistoryMeta ∉ events) :
    (run s events).historySnapshot = s.historySnapshot ∧
      (run s events).historySnapshotValid = s.historySnapshotValid := by
  induction events generalizing s with
  | nil => exact ⟨rfl,rfl⟩
  | cons event rest ih =>
    obtain ⟨notEvent,notRest⟩ := List.ne_and_not_mem_of_not_mem_cons other
    obtain ⟨snapshot,valid⟩ := step_frozen s event (Ne.symm notEvent)
    obtain ⟨snapshot',valid'⟩ := ih (step s event) notRest
    exact ⟨snapshot'.trans snapshot,valid'.trans valid⟩

theorem frozen_copy (s : State cfg) (after : List Event) (other : Event.getHistoryMeta ∉ after)
    (known : sensorIndex sensorId = some i) :
    copyHistory (run (getHistoryMeta s).2 after) sensorId startSequence requestedCount =
      (s.sensors i).history.copy startSequence requestedCount := by
  obtain ⟨snapshot,valid⟩ := run_frozen after (getHistoryMeta s).2 other
  simp only [copyHistory,known]
  rw [valid,snapshot]
  rfl

theorem consecutive_oldest {buffer : HistoryBuffer c} (held : Consecutive latest buffer)
    (positive : 0 < buffer.count.toNat) :
    buffer.contents.map (·.sequence.toNat) = span (2 ^ 32) buffer.oldestSequence.toNat buffer.count.toNat ∧
      (buffer.oldestSequence.toNat + buffer.count.toNat) % 2 ^ 32 = (latest.toNat + 1) % 2 ^ 32 := by
  obtain ⟨oldest,sequences,next⟩ := held
  have some : buffer.count ≠ 0 := by rintro zero; simp [zero] at positive
  have first : buffer.oldestSequence.toNat = oldest % 2 ^ 32 := by
    have head := congrArg (fun numbers => numbers[0]?) sequences
    have inside : 0 < buffer.contents.length := by simpa using positive
    have inSpan : 0 < (span (2 ^ 32) oldest buffer.count.toNat).length := by simpa using positive
    simp only [List.getElem?_map,List.getElem?_eq_getElem inside,List.getElem?_eq_getElem inSpan,
      Option.map_some,Option.some.injEq,HistoryBuffer.contents_getElem,span_getElem,Nat.add_zero] at head
    rw [HistoryBuffer.oldestSequence,if_neg some,head]
  rw [first,span_mod,Nat.mod_add_mod]
  exact ⟨sequences,next⟩

-- The answer of the frozen copy depends on the ring at the metadata request only:
-- whatever happens afterwards, a chunk that begins at the k-th sequence of the
-- announced range holds the announced records from the k-th on.
theorem frozen_snapshot (cfg : DeviceConfig) (bootId : UInt32) (before after : List Event)
    (other : Event.getHistoryMeta ∉ after) (sensorId : UInt8) (i : Fin sensorCount)
    (known : sensorIndex sensorId = some i) :
    let s := run (start cfg bootId) before
    let answer := (getHistoryMeta s).1
    let later := run (getHistoryMeta s).2 after
    let held := (s.sensors i).history.contents
    let count := (answer.counts i).toNat
    held.length = count ∧
    held.map (·.sequence.toNat) = span (2 ^ 32) (answer.oldestSequences i).toNat count ∧
    (0 < count → ((answer.oldestSequences i).toNat + count - 1) % 2 ^ 32 = answer.newestSequence.toNat) ∧
    ∀ (startSequence : UInt32) (requestedCount : Nat),
      let offset := (startSequence - answer.oldestSequences i).toNat
      offset < count → 0 < requestedCount →
        copyHistory later sensorId startSequence requestedCount =
          some ((held.drop offset).take requestedCount) := by
  intro s answer later held count
  have length : held.length = count := HistoryBuffer.contents_length
  have rings := started_consecutive cfg bootId before i
  have fits : count ≤ 65535 := Nat.le_trans (s.sensors i).history.countBounded cfg.capacity.fits
  have numbered : held.map (·.sequence.toNat) = span (2 ^ 32) (answer.oldestSequences i).toNat count := by
    rcases Nat.eq_zero_or_pos count with none | positive
    · rw [none] at length ⊢
      rw [List.length_eq_zero_iff.mp length]; rfl
    · exact (consecutive_oldest rings positive).1
  refine ⟨length,numbered,fun positive => ?_,fun startSequence requestedCount => ?_⟩
  · have next := (consecutive_oldest rings positive).2
    change ((answer.oldestSequences i).toNat + count) % 2 ^ 32 = (answer.newestSequence.toNat + 1) % 2 ^ 32
      at next
    have bound := answer.newestSequence.toNat_lt
    omega
  · intro offset inside requested
    have offsetNumber : startSequence.toNat = ((answer.oldestSequences i).toNat + offset) % 2 ^ 32 := by
      have sum := congrArg UInt32.toNat (UInt32.sub_add_cancel startSequence (answer.oldestSequences i))
      rw [UInt32.toNat_add,Nat.add_comm] at sum
      exact sum.symm
    have found : held.findIdx (·.sequence == startSequence) = offset := by
      have search := findIdx_span numbered (by omega) inside
      rw [← offsetNumber] at search
      rw [← search]
      congr 1
      funext record
      rw [Bool.eq_iff_iff,beq_iff_eq,beq_iff_eq,UInt32.toNat_inj]
    have copied := (s.sensors i).history.copy_contents startSequence requestedCount
    change (s.sensors i).history.copy startSequence requestedCount =
      if held.findIdx (·.sequence == startSequence) = held.length ∨ requestedCount = 0 then none
      else some ((held.drop (held.findIdx (·.sequence == startSequence))).take requestedCount) at copied
    have differs : ¬(offset = held.length ∨ requestedCount = 0) := by omega
    rw [frozen_copy s after other known,copied,found,if_neg differs]

def threeSlots : DeviceConfig := ⟨.three,1,1,Nat.one_pos,Nat.one_pos⟩

-- Four ticks wrap a ring of three slots; two more ticks happen during the transfer.
theorem frozen_snapshot_three_slots :
    copyHistory (run (getHistoryMeta (run (start threeSlots 7) (.replicate 4 .tick))).2 [.tick,.tick]) 1 3 5 =
      some [⟨3,0,.disconnected⟩,⟨4,0,.disconnected⟩] :=
  ((frozen_snapshot threeSlots 7 (.replicate 4 .tick) [.tick,.tick] (by simp) 1 0 (by decide)).2.2.2
    3 5 (by decide) (by decide)).trans (by decide)

end Thermometer.Firmware
