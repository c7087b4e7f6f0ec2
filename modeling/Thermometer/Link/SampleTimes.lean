import Mathlib.Tactic.Linarith
import Mathlib.Tactic.Ring
import Thermometer.Client.HistoryBatch
import Thermometer.Firmware.SamplingClock

-- The times that the client gives to records, against the times at which the device sampled them.
namespace Thermometer.Link
open Firmware Firmware.SamplingClock Wire
open Client (timestamp ringOffset ringOffset_bounds timestamp_offset)

theorem ringOffset_near {anchor sequence : UInt32} {n k : Nat} (anchored : anchor.toNat = (n + 1) % 2 ^ 32)
    (numbered : sequence.toNat = (k + 1) % 2 ^ 32) (before : n ≤ k + 2147483647) (after : k ≤ n + 2147483647) :
    ringOffset anchor sequence = (k : Int) - n := by
  obtain ⟨low,high,place⟩ := ringOffset_bounds anchor sequence
  have bound := anchor.toNat_lt
  have bound_other := sequence.toNat_lt
  omega

-- `second` is when a tick falls, in seconds, on a counter that starts at `origin`.
def second (origin tick : Rat) (time : Nat) : Rat := origin + time * tick

theorem second_le (origin : Rat) {tick : Rat} (forward : 0 ≤ tick) {earlier later : Nat} (order : earlier ≤ later) :
    second origin tick earlier ≤ second origin tick later := by
  have scaled : (earlier : Rat) * tick ≤ later * tick := mul_le_mul_of_nonneg_right (by exact_mod_cast order) forward
  simp only [second]
  linarith

theorem second_add (origin tick : Rat) (time more : Nat) :
    second origin tick (time + more) = second origin tick time + more * tick := by
  simp only [second]
  push_cast
  ring

-- The client's times are right up to `lag` and the delay of the sampling task, as long as the
-- record and the anchor are less than half a turn of the sequence numbers apart.
theorem backdated_times (cfg : DeviceConfig) (bootId period : UInt32) (begun delay : Nat) (rounds : List Round)
    (short : period.toNat < 2 ^ 31) (able : delay ≤ period.toNat)
    (timely : Timely delay period (UInt32.ofNat begun + period) begun begun rounds) (i : Fin sensorCount)
    (origin tick lag anchorTime sampleSeconds : Rat) (forward : 0 ≤ tick) (exact_period : sampleSeconds = period.toNat * tick) :
    let log := bootLog cfg bootId i (events period (UInt32.ofNat begun + period) rounds)
    let times := taken period (UInt32.ofNat begun + period) rounds
    ∀ n k anchor record anchored sampled, log[n]? = some anchor → times[n]? = some anchored →
      log[k]? = some record → times[k]? = some sampled → n ≤ k + 2147483647 → k ≤ n + 2147483647 →
      second origin tick anchored ≤ anchorTime → anchorTime ≤ second origin tick anchored + lag →
      second origin tick sampled - delay * tick ≤ timestamp anchor.sequence anchorTime record.sequence sampleSeconds ∧
      timestamp anchor.sequence anchorTime record.sequence sampleSeconds ≤ second origin tick sampled + delay * tick + lag := by
  intro log times n k anchor record anchored sampled at_n time_n at_k time_k before after received soon
  have track := begin_on_track delay period begun
  have offset := ringOffset_near (bootLog_number at_n) (bootLog_number at_k) before after
  rw [timestamp_offset,offset,exact_period]
  obtain ⟨anchor_due,anchor_late⟩ := track.taken_times short able timely n anchored time_n
  obtain ⟨record_due,record_late⟩ := track.taken_times short able timely k sampled time_k
  -- Both deadlines lie on the grid of the periods, and the offset is their distance.
  have anchor_after := second_le origin forward anchor_due
  have anchor_before := second_le origin forward anchor_late
  have record_after := second_le origin forward record_due
  have record_before := second_le origin forward record_late
  have apart : second origin tick (begun + (n + 1) * period.toNat) + ((k - n : Int) : Rat) * (period.toNat * tick) =
      second origin tick (begun + (k + 1) * period.toNat) := by
    simp only [second]
    push_cast
    ring
  rw [second_add] at anchor_before record_before
  constructor <;> linarith

-- A hundred ticks a second; the second of two records is received half a second after it was sampled.
theorem backdated_times_wrapping :
    second 0 (1 / 100) 4294967246 - (10 : Nat) * (1 / 100) ≤ timestamp 2 (second 0 (1 / 100) 4294967356 + 1 / 2) 1 1 ∧
    timestamp 2 (second 0 (1 / 100) 4294967356 + 1 / 2) 1 1 ≤ second 0 (1 / 100) 4294967246 + (10 : Nat) * (1 / 100) + 1 / 2 := by
  have timely : Timely 10 100 (UInt32.ofNat 4294967146 + 100) 4294967146 4294967146 wrappingRounds :=
    ⟨by decide,by decide,by decide,by decide,by decide,by decide,by decide,by decide,trivial⟩
  have exact_period : (1 : Rat) = (100 : UInt32).toNat * (1 / 100) := by
    rw [show (100 : UInt32).toNat = 100 from rfl]
    norm_num
  exact backdated_times threeSlots 7 100 4294967146 10 wrappingRounds (by decide) (by decide) timely 1 0 (1 / 100) (1 / 2)
    (second 0 (1 / 100) 4294967356 + 1 / 2) 1 (by norm_num) exact_period 1 0 ⟨2,0,.disconnected⟩ ⟨1,0,.disconnected⟩
    4294967356 4294967246 (by decide) (by decide) (by decide) (by decide) (by decide) (by decide)
    (by linarith) le_rfl

end Thermometer.Link
