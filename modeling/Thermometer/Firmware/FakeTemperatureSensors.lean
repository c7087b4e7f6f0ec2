import Mathlib.Tactic.Linarith
import Thermometer.Firmware.State

-- fake_temperature_sensors.c: simulated readings, with every operation of C that may fail.
namespace Thermometer.Firmware.FakeSensors

inductive Fault where
  | divisionByZero | overflow
  deriving DecidableEq

def fit (low high value : Int) : Except Fault Int := if low ≤ value ∧ value ≤ high then .ok value else .error .overflow

def int16 : Int → Except Fault Int := fit (-2 ^ 15) (2 ^ 15 - 1)

def int32 : Int → Except Fault Int := fit (-2 ^ 31) (2 ^ 31 - 1)

def remainder (value divisor : Nat) : Except Fault Nat := if divisor = 0 then .error .divisionByZero else .ok (value % divisor)

def quotient (value divisor : Int) : Except Fault Int :=
  if divisor = 0 then .error .divisionByZero else .ok (value.tdiv divisor)

structure FakeSensorProfile where
  centerCentiC : Int16
  amplitudeCentiC : Int16
  wavePeriodSamples : UInt32
  waveOffsetSamples : UInt32
  disconnectStartSample : UInt32
  disconnectEndSample : UInt32

-- THERMOMETER_FAKE_DISCONNECTS, THERMOMETER_FAKE_DISCONNECT_CYCLE_SAMPLES and SENSOR_PROFILES.
structure Simulation where
  disconnects : Bool
  disconnectCycleSamples : Nat
  profiles : Fin Wire.sensorCount → FakeSensorProfile

def isConnected (simulation : Simulation) (profile : FakeSensorProfile) (sampleNumber : UInt32) : Except Fault Bool :=
  if !simulation.disconnects then .ok true
  else do
    let cyclePosition ← remainder sampleNumber.toNat simulation.disconnectCycleSamples
    return cyclePosition < profile.disconnectStartSample.toNat || profile.disconnectEndSample.toNat ≤ cyclePosition

-- The sum of two unsigned numbers wraps, which is no failure in C.
def triangleWave (profile : FakeSensorProfile) (sampleNumber : UInt32) : Except Fault Int16 := do
  let position ← remainder (sampleNumber + profile.waveOffsetSamples).toNat profile.wavePeriodSamples.toNat
  let halfPeriod := profile.wavePeriodSamples.toNat / 2
  let distanceFromLow : Nat := if position < halfPeriod then position else profile.wavePeriodSamples.toNat - position
  let doubled ← int32 ((← int32 distanceFromLow) * 2)
  let scaled ← int32 (doubled * profile.amplitudeCentiC.toInt)
  let excursion ← quotient scaled (← int32 halfPeriod)
  let low ← int32 (profile.centerCentiC.toInt - profile.amplitudeCentiC.toInt)
  let value ← int16 (← int32 (low + excursion))
  return Int16.ofInt value

def temperatureSensorRead (simulation : Simulation) (sensorIndex : Nat) (sampleNumber : UInt32) : Except Fault SensorReading :=
  if inside : sensorIndex < Wire.sensorCount then do
    let profile := simulation.profiles ⟨sensorIndex,inside⟩
    if ← isConnected simulation profile sampleNumber then return ⟨true,← triangleWave profile sampleNumber⟩
    else return ⟨false,0⟩
  else .ok ⟨false,0⟩

section Reading

variable {simulation : Simulation} {profile : FakeSensorProfile} {sampleNumber : UInt32} {temperature : Int16}

def position (profile : FakeSensorProfile) (sampleNumber : UInt32) : Nat :=
  (sampleNumber + profile.waveOffsetSamples).toNat % profile.wavePeriodSamples.toNat

def distance (profile : FakeSensorProfile) (sampleNumber : UInt32) : Nat :=
  if position profile sampleNumber < profile.wavePeriodSamples.toNat / 2 then position profile sampleNumber
  else profile.wavePeriodSamples.toNat - position profile sampleNumber

def height (profile : FakeSensorProfile) (sampleNumber : UInt32) : Int :=
  (distance profile sampleNumber * 2 * profile.amplitudeCentiC.toInt).tdiv (profile.wavePeriodSamples.toNat / 2 : Nat)

theorem bind_ok {α β : Type} {first : Except Fault α} {next : α → Except Fault β} {result : β} :
    (first >>= next) = .ok result ↔ ∃ value, first = .ok value ∧ next value = .ok result := by
  cases first with
  | error fault => exact ⟨nofun,nofun⟩
  | ok value => exact ⟨fun done => ⟨value,rfl,done⟩,fun ⟨_,same,done⟩ => by cases same; exact done⟩

theorem fit_ok {low high value result : Int} : fit low high value = .ok result ↔ (low ≤ value ∧ value ≤ high) ∧ value = result := by
  unfold fit
  split
  · rename_i inside
    exact ⟨fun done => ⟨inside,Except.ok.inj done⟩,fun both => congrArg Except.ok both.2⟩
  · rename_i outside
    exact ⟨nofun,fun both => absurd both.1 outside⟩

theorem remainder_ok {value divisor result : Nat} : remainder value divisor = .ok result ↔ divisor ≠ 0 ∧ value % divisor = result := by
  unfold remainder
  split
  · rename_i zero
    exact ⟨nofun,fun both => absurd zero both.1⟩
  · rename_i nonzero
    exact ⟨fun done => ⟨nonzero,Except.ok.inj done⟩,fun both => congrArg Except.ok both.2⟩

theorem quotient_ok {value divisor result : Int} : quotient value divisor = .ok result ↔ divisor ≠ 0 ∧ value.tdiv divisor = result := by
  unfold quotient
  split
  · rename_i zero
    exact ⟨nofun,fun both => absurd zero both.1⟩
  · rename_i nonzero
    exact ⟨fun done => ⟨nonzero,Except.ok.inj done⟩,fun both => congrArg Except.ok both.2⟩

structure Computes (profile : FakeSensorProfile) (sampleNumber : UInt32) : Prop where
  period : 2 ≤ profile.wavePeriodSamples.toNat
  doubled : distance profile sampleNumber * 2 < 2 ^ 31
  scaled : -2 ^ 31 ≤ distance profile sampleNumber * 2 * profile.amplitudeCentiC.toInt ∧
    distance profile sampleNumber * 2 * profile.amplitudeCentiC.toInt < 2 ^ 31
  value : -2 ^ 15 ≤ profile.centerCentiC.toInt - profile.amplitudeCentiC.toInt + height profile sampleNumber ∧
    profile.centerCentiC.toInt - profile.amplitudeCentiC.toInt + height profile sampleNumber < 2 ^ 15

theorem triangleWave_ok : triangleWave profile sampleNumber = .ok temperature ↔ Computes profile sampleNumber ∧
    temperature.toInt = profile.centerCentiC.toInt - profile.amplitudeCentiC.toInt + height profile sampleNumber := by
  have center := profile.centerCentiC.toInt_lt
  have centerLow := profile.centerCentiC.le_toInt
  have amplitude := profile.amplitudeCentiC.toInt_lt
  have amplitudeLow := profile.amplitudeCentiC.le_toInt
  have period := profile.wavePeriodSamples.toNat_lt
  unfold triangleWave
  simp only [bind_ok,remainder_ok,int32,int16,fit_ok,quotient_ok,pure,Except.pure,and_assoc,exists_and_left,exists_eq_left',
    Except.ok.injEq]
  have far : (if (sampleNumber + profile.waveOffsetSamples).toNat % profile.wavePeriodSamples.toNat <
      profile.wavePeriodSamples.toNat / 2 then
      (sampleNumber + profile.waveOffsetSamples).toNat % profile.wavePeriodSamples.toNat
    else profile.wavePeriodSamples.toNat -
      (sampleNumber + profile.waveOffsetSamples).toNat % profile.wavePeriodSamples.toNat) =
        distance profile sampleNumber := rfl
  have high : (distance profile sampleNumber * 2 * profile.amplitudeCentiC.toInt).tdiv
      (profile.wavePeriodSamples.toNat / 2 : Nat) = height profile sampleNumber := rfl
  rw [far,high]
  constructor
  · rintro ⟨nonzero,_,_,_,doubled,scaledLow,scaled,_,_,divides,_,_,_,_,low,high,rfl⟩
    refine ⟨⟨by omega,by omega,⟨scaledLow,by omega⟩,⟨low,by omega⟩⟩,?_⟩
    exact Int16.toInt_ofInt_of_le (by omega) (by omega)
  · rintro ⟨⟨period,doubled,⟨scaledLow,scaled⟩,⟨low,high⟩⟩,same⟩
    refine ⟨by omega,by omega,by omega,by omega,by omega,scaledLow,by omega,by omega,by omega,by omega,by omega,by omega,
      by omega,by omega,low,by omega,?_⟩
    rw [← same,Int16.ofInt_toInt]

theorem waves_of_computes (computes : Computes profile sampleNumber) :
    ∃ temperature, triangleWave profile sampleNumber = .ok temperature := by
  obtain ⟨low,high⟩ := computes.value
  exact ⟨_,triangleWave_ok.mpr ⟨computes,Int16.toInt_ofInt_of_le (by omega) (by omega)⟩⟩

theorem distance_cases (sampleNumber : UInt32) (long : 2 ≤ profile.wavePeriodSamples.toNat) :
    2 * distance profile sampleNumber ≤ profile.wavePeriodSamples.toNat ∨
      distance profile sampleNumber = profile.wavePeriodSamples.toNat / 2 + 1 := by
  have inside : position profile sampleNumber < profile.wavePeriodSamples.toNat := Nat.mod_lt _ (by omega)
  unfold distance
  split <;> omega

theorem height_of_nonneg (rising : 0 ≤ profile.amplitudeCentiC.toInt) : height profile sampleNumber =
    distance profile sampleNumber * 2 * profile.amplitudeCentiC.toInt / (profile.wavePeriodSamples.toNat / 2 : Nat) := by
  apply Int.tdiv_eq_ediv_of_nonneg
  positivity

theorem height_bounded (sampleNumber : UInt32) (long : 2 ≤ profile.wavePeriodSamples.toNat) :
    (0 ≤ height profile sampleNumber ∧ height profile sampleNumber ≤ 2 * profile.amplitudeCentiC.toInt) ↔
      0 ≤ profile.amplitudeCentiC.toInt ∧ (2 * distance profile sampleNumber ≤ profile.wavePeriodSamples.toNat ∨
        2 * profile.amplitudeCentiC.toInt < (profile.wavePeriodSamples.toNat / 2 : Nat)) := by
  have half : 0 < ((profile.wavePeriodSamples.toNat / 2 : Nat) : Int) := by omega
  have far := distance_cases sampleNumber long
  constructor
  · intro ⟨above,below⟩
    have rising : 0 ≤ profile.amplitudeCentiC.toInt := by omega
    refine ⟨rising,far.imp_right fun middle => ?_⟩
    rw [height_of_nonneg rising,middle,← Int.lt_add_one_iff,Int.ediv_lt_iff_lt_mul half] at below
    push_cast at below ⊢
    linarith only [below]
  · intro ⟨rising,near⟩
    rw [height_of_nonneg rising]
    refine ⟨by positivity,?_⟩
    rw [← Int.lt_add_one_iff,Int.ediv_lt_iff_lt_mul half]
    rcases far with inside | middle
    · have less : (distance profile sampleNumber : Int) ≤ (profile.wavePeriodSamples.toNat / 2 : Nat) := by omega
      have product := mul_le_mul_of_nonneg_right less rising
      linarith only [product,half]
    · have steep : 2 * profile.amplitudeCentiC.toInt < (profile.wavePeriodSamples.toNat / 2 : Nat) := by omega
      rw [middle]
      push_cast at steep ⊢
      linarith only [steep]

theorem isConnected_ok : (∃ connected, isConnected simulation profile sampleNumber = .ok connected) ↔
    (simulation.disconnects = true → simulation.disconnectCycleSamples ≠ 0) := by
  unfold isConnected
  cases simulation.disconnects with
  | false => exact ⟨fun _ => nofun,fun _ => ⟨true,rfl⟩⟩
  | true =>
    simp only [Bool.not_true,Bool.false_eq_true,if_false,bind_ok,remainder_ok]
    constructor
    · intro ⟨_,_,⟨nonzero,_⟩,_⟩ _
      exact nonzero
    · intro nonzero
      exact ⟨_,_,⟨nonzero trivial,rfl⟩,rfl⟩

theorem read_valid {index : Fin Wire.sensorCount} :
    temperatureSensorRead simulation index sampleNumber = .ok ⟨true,temperature⟩ ↔
      isConnected simulation (simulation.profiles index) sampleNumber = .ok true ∧
        triangleWave (simulation.profiles index) sampleNumber = .ok temperature := by
  unfold temperatureSensorRead
  rw [dif_pos index.isLt,bind_ok]
  constructor
  · intro ⟨connected,known,done⟩
    cases connected with
    | false => cases done
    | true =>
      obtain ⟨value,waved,same⟩ := bind_ok.mp done
      cases same
      exact ⟨known,waved⟩
  · intro ⟨known,waved⟩
    exact ⟨true,known,bind_ok.mpr ⟨temperature,waved,rfl⟩⟩

theorem read_ok (index : Fin Wire.sensorCount) :
    (∃ reading, temperatureSensorRead simulation index sampleNumber = .ok reading) ↔
      ∃ connected, isConnected simulation (simulation.profiles index) sampleNumber = .ok connected ∧
        (connected = true → ∃ temperature, triangleWave (simulation.profiles index) sampleNumber = .ok temperature) := by
  unfold temperatureSensorRead
  rw [dif_pos index.isLt]
  simp only [bind_ok]
  constructor
  · intro ⟨reading,connected,known,done⟩
    refine ⟨connected,known,?_⟩
    intro same
    rw [if_pos same] at done
    obtain ⟨temperature,waved,_⟩ := bind_ok.mp done
    exact ⟨temperature,waved⟩
  · intro ⟨connected,known,waves⟩
    cases connected with
    | false => exact ⟨_,_,known,rfl⟩
    | true =>
      obtain ⟨temperature,waved⟩ := waves rfl
      exact ⟨_,_,known,bind_ok.mpr ⟨temperature,waved,rfl⟩⟩

end Reading

-- Periodic over the sample numbers: one period later the temperature is the same.
structure Sound (simulation : Simulation) : Prop where
  runs : ∀ sensorIndex sampleNumber, ∃ reading, temperatureSensorRead simulation sensorIndex sampleNumber = .ok reading
  bounded : ∀ (index : Fin Wire.sensorCount) sampleNumber temperature,
    temperatureSensorRead simulation index sampleNumber = .ok ⟨true,temperature⟩ →
      (simulation.profiles index).centerCentiC.toInt - (simulation.profiles index).amplitudeCentiC.toInt ≤
        temperature.toInt ∧
      temperature.toInt ≤
        (simulation.profiles index).centerCentiC.toInt + (simulation.profiles index).amplitudeCentiC.toInt
  periodic : ∀ (index : Fin Wire.sensorCount) sampleNumber later temperature repeated,
    later.toNat = sampleNumber.toNat + (simulation.profiles index).wavePeriodSamples.toNat →
    temperatureSensorRead simulation index sampleNumber = .ok ⟨true,temperature⟩ →
    temperatureSensorRead simulation index later = .ok ⟨true,repeated⟩ → repeated = temperature

structure Admissible (profile : FakeSensorProfile) (sampleNumber : UInt32) : Prop where
  period : 2 ≤ profile.wavePeriodSamples.toNat
  rising : 0 ≤ profile.amplitudeCentiC.toInt
  middle : 2 * distance profile sampleNumber ≤ profile.wavePeriodSamples.toNat ∨
    2 * profile.amplitudeCentiC.toInt < (profile.wavePeriodSamples.toNat / 2 : Nat)
  doubled : distance profile sampleNumber * 2 < 2 ^ 31
  scaled : distance profile sampleNumber * 2 * profile.amplitudeCentiC.toInt < 2 ^ 31
  low : (-2 ^ 15 - profile.centerCentiC.toInt + profile.amplitudeCentiC.toInt) *
    (profile.wavePeriodSamples.toNat / 2 : Nat) ≤ distance profile sampleNumber * 2 * profile.amplitudeCentiC.toInt
  high : distance profile sampleNumber * 2 * profile.amplitudeCentiC.toInt <
    (2 ^ 15 - profile.centerCentiC.toInt + profile.amplitudeCentiC.toInt) * (profile.wavePeriodSamples.toNat / 2 : Nat)

-- The last clause is about the one period in which the sum of sample and offset wraps.
structure Regular (simulation : Simulation) : Prop where
  cycle : simulation.disconnects = true → simulation.disconnectCycleSamples ≠ 0
  samples : ∀ index sampleNumber, isConnected simulation (simulation.profiles index) sampleNumber = .ok true →
    Admissible (simulation.profiles index) sampleNumber
  wraps : ∀ index sampleNumber later,
    later.toNat = sampleNumber.toNat + (simulation.profiles index).wavePeriodSamples.toNat →
    sampleNumber.toNat + (simulation.profiles index).waveOffsetSamples.toNat < 2 ^ 32 →
    2 ^ 32 ≤ later.toNat + (simulation.profiles index).waveOffsetSamples.toNat →
    isConnected simulation (simulation.profiles index) sampleNumber = .ok true →
    isConnected simulation (simulation.profiles index) later = .ok true →
    height (simulation.profiles index) later = height (simulation.profiles index) sampleNumber

section Simulations

variable {simulation : Simulation} {profile : FakeSensorProfile} {sampleNumber later : UInt32}

theorem admissible_iff : Admissible profile sampleNumber ↔ Computes profile sampleNumber ∧
    0 ≤ height profile sampleNumber ∧ height profile sampleNumber ≤ 2 * profile.amplitudeCentiC.toInt := by
  have bounds (long : 2 ≤ profile.wavePeriodSamples.toNat) (rising : 0 ≤ profile.amplitudeCentiC.toInt) :
      (-2 ^ 15 ≤ profile.centerCentiC.toInt - profile.amplitudeCentiC.toInt + height profile sampleNumber ∧
        profile.centerCentiC.toInt - profile.amplitudeCentiC.toInt + height profile sampleNumber < 2 ^ 15) ↔
      ((-2 ^ 15 - profile.centerCentiC.toInt + profile.amplitudeCentiC.toInt) *
          (profile.wavePeriodSamples.toNat / 2 : Nat) ≤ distance profile sampleNumber * 2 * profile.amplitudeCentiC.toInt ∧
        distance profile sampleNumber * 2 * profile.amplitudeCentiC.toInt <
          (2 ^ 15 - profile.centerCentiC.toInt + profile.amplitudeCentiC.toInt) *
            (profile.wavePeriodSamples.toNat / 2 : Nat)) := by
    have half : 0 < ((profile.wavePeriodSamples.toNat / 2 : Nat) : Int) := by omega
    rw [← Int.le_ediv_iff_mul_le half,← Int.ediv_lt_iff_lt_mul half,← height_of_nonneg rising]
    omega
  constructor
  · intro ⟨period,rising,middle,doubled,scaled,low,high⟩
    refine ⟨⟨period,doubled,⟨?_,scaled⟩,(bounds period rising).mpr ⟨low,high⟩⟩,
      (height_bounded sampleNumber period).mpr ⟨rising,middle⟩⟩
    have above : 0 ≤ (distance profile sampleNumber : Int) * 2 * profile.amplitudeCentiC.toInt := by positivity
    linarith only [above]
  · intro ⟨⟨period,doubled,scaled,value⟩,inside⟩
    obtain ⟨rising,middle⟩ := (height_bounded sampleNumber period).mp inside
    obtain ⟨low,high⟩ := (bounds period rising).mp value
    exact ⟨period,rising,middle,doubled,scaled.2,low,high⟩

theorem position_periodic (apart : later.toNat = sampleNumber.toNat + profile.wavePeriodSamples.toNat)
    (together : 2 ^ 32 ≤ sampleNumber.toNat + profile.waveOffsetSamples.toNat ∨
      later.toNat + profile.waveOffsetSamples.toNat < 2 ^ 32) :
    position profile later = position profile sampleNumber := by
  have small := later.toNat_lt
  have offset := profile.waveOffsetSamples.toNat_lt
  have shifted : (later + profile.waveOffsetSamples).toNat =
      (sampleNumber + profile.waveOffsetSamples).toNat + profile.wavePeriodSamples.toNat := by
    rw [UInt32.toNat_add,UInt32.toNat_add]
    omega
  unfold position
  rw [shifted,Nat.add_mod_right]

theorem height_periodic (same : position profile later = position profile sampleNumber) :
    height profile later = height profile sampleNumber := by
  unfold height distance
  rw [same]

theorem regular_of_sound (sound : Sound simulation) : Regular simulation := by
  have waves (index : Fin Wire.sensorCount) (sampleNumber : UInt32)
      (known : isConnected simulation (simulation.profiles index) sampleNumber = .ok true) :
      ∃ temperature, triangleWave (simulation.profiles index) sampleNumber = .ok temperature := by
    obtain ⟨connected,alsoKnown,waved⟩ := (read_ok index).mp (sound.runs index sampleNumber)
    exact waved (Except.ok.inj (alsoKnown.symm.trans known))
  refine ⟨?_,?_,?_⟩
  · obtain ⟨connected,known,_⟩ := (read_ok 0).mp (sound.runs (0 : Fin Wire.sensorCount) 0)
    exact isConnected_ok.mp ⟨connected,known⟩
  · intro index sampleNumber known
    obtain ⟨temperature,waved⟩ := waves index sampleNumber known
    have inside := sound.bounded index sampleNumber temperature (read_valid.mpr ⟨known,waved⟩)
    obtain ⟨computes,value⟩ := triangleWave_ok.mp waved
    exact admissible_iff.mpr ⟨computes,by omega,by omega⟩
  · intro index sampleNumber later apart _ _ known alsoKnown
    obtain ⟨temperature,waved⟩ := waves index sampleNumber known
    obtain ⟨repeated,alsoWaved⟩ := waves index later alsoKnown
    have same := sound.periodic index sampleNumber later temperature repeated apart (read_valid.mpr ⟨known,waved⟩)
      (read_valid.mpr ⟨alsoKnown,alsoWaved⟩)
    have value := (triangleWave_ok.mp waved).2
    have alsoValue := (triangleWave_ok.mp alsoWaved).2
    rw [same] at alsoValue
    omega

theorem sound_of_regular (regular : Regular simulation) : Sound simulation := by
  refine ⟨?_,?_,?_⟩
  · intro sensorIndex sampleNumber
    by_cases inside : sensorIndex < Wire.sensorCount
    · apply (read_ok ⟨sensorIndex,inside⟩).mpr
      obtain ⟨connected,known⟩ := isConnected_ok.mpr regular.cycle
      refine ⟨connected,known,?_⟩
      intro same
      subst same
      exact waves_of_computes (admissible_iff.mp (regular.samples _ sampleNumber known)).1
    · exact ⟨_,dif_neg inside⟩
  · intro index sampleNumber temperature read
    obtain ⟨known,waved⟩ := read_valid.mp read
    obtain ⟨_,above,below⟩ := admissible_iff.mp (regular.samples index sampleNumber known)
    have value := (triangleWave_ok.mp waved).2
    omega
  · intro index sampleNumber later temperature repeated apart read again
    obtain ⟨known,waved⟩ := read_valid.mp read
    obtain ⟨alsoKnown,alsoWaved⟩ := read_valid.mp again
    have same : height (simulation.profiles index) later = height (simulation.profiles index) sampleNumber := by
      by_cases together : 2 ^ 32 ≤ sampleNumber.toNat + (simulation.profiles index).waveOffsetSamples.toNat ∨
          later.toNat + (simulation.profiles index).waveOffsetSamples.toNat < 2 ^ 32
      · exact height_periodic (position_periodic apart together)
      · exact regular.wraps index sampleNumber later apart (by omega) (by omega) known alsoKnown
    have value := (triangleWave_ok.mp waved).2
    have alsoValue := (triangleWave_ok.mp alsoWaved).2
    exact Int16.toInt_inj.mp (by omega)

theorem sound_iff : Sound simulation ↔ Regular simulation := ⟨regular_of_sound,sound_of_regular⟩

end Simulations

end Thermometer.Firmware.FakeSensors
