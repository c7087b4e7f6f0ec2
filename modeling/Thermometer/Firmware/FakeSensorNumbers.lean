import Thermometer.Firmware.FakeTemperatureSensors

-- Which numbers of a simulation keep its readings within bounds and periodic.
namespace Thermometer.Firmware.FakeSensors

section Wave

variable {period offset place samples fewer : Nat} {amplitude : Int}

def away (period place : Nat) : Nat := if place < period / 2 then place else period - place

def rise (period : Nat) (amplitude : Int) (place : Nat) : Int := (away period place * 2 * amplitude).tdiv (period / 2 : Nat)

-- So many samples from a low point the reading is still the lowest.
def Low (period : Nat) (amplitude : Int) (samples : Nat) : Prop := samples * 2 * amplitude < (period / 2 : Nat)

instance : DecidablePred (Low period amplitude) := fun _ => inferInstanceAs (Decidable (_ < _))

-- Where the sum of sample and offset wraps, the wave falls back from place 2 ^ 32 % period to its low point. Nothing shows
-- if the samples that have the wrap within a period of them are all as low.
def Joins (period offset : Nat) (amplitude : Int) : Prop :=
  offset = 0 ∨ 2 ^ 32 % period = 0 ∨
    if offset + period ≤ 2 ^ 32 then
      Low period amplitude (2 ^ 32 % period + offset - 1) ∨
        Low period amplitude (period - 2 ^ 32 % period) ∧ Low period amplitude (offset - 1)
    -- The wrap comes before the first period is over.
    else
      Low period amplitude (2 ^ 32 % period - 1) ∧ Low period amplitude (2 ^ 32 - offset) ∨
        Low period amplitude (period - 2 ^ 32 % period + (2 ^ 32 - offset)) ∨ 2 ^ 32 % period = 2 ∧ offset = 2 ^ 32 - 1

-- At the places after the wrap the wave is as high as one period before.
def Repeats (period offset : Nat) (amplitude : Int) : Prop :=
  ∀ place, place < offset → place < period → period + offset ≤ place + 2 ^ 32 →
    rise period amplitude ((2 ^ 32 + place) % period) = rise period amplitude place

theorem away_start (near : place < period / 2) : away period place = place := if_pos near

theorem away_end (near : place ≤ period / 2) (apart : 0 < place) : away period (period - place) = place := by
  unfold away
  rw [if_neg (by omega)]
  omega

theorem rise_of_nonneg (rising : 0 ≤ amplitude) (place : Nat) :
    rise period amplitude place = away period place * 2 * amplitude / (period / 2 : Nat) := by
  apply Int.tdiv_eq_ediv_of_nonneg
  positivity

theorem rise_zero (long : 2 ≤ period) (rising : 0 ≤ amplitude) :
    rise period amplitude place = 0 ↔ Low period amplitude (away period place) := by
  have half : 0 < ((period / 2 : Nat) : Int) := by omega
  have below : rise period amplitude place < 1 ↔ Low period amplitude (away period place) := by
    rw [rise_of_nonneg rising,Int.ediv_lt_iff_lt_mul half,Int.one_mul]
    rfl
  have above : 0 ≤ rise period amplitude place := by
    rw [rise_of_nonneg rising]
    positivity
  constructor
  · intro zero
    exact below.mp (by omega)
  · intro low
    have small := below.mpr low
    omega

theorem Low.mono (low : Low period amplitude samples) (rising : 0 ≤ amplitude) (less : fewer ≤ samples) :
    Low period amplitude fewer := by
  have product : (fewer : Int) * 2 * amplitude ≤ samples * 2 * amplitude := mul_le_mul_of_nonneg_right (by omega) rising
  exact product.trans_lt low

theorem Low.near (low : Low period amplitude samples) (rising : 0 < amplitude) : 2 * samples < period / 2 := by
  have product : (samples : Int) * 2 * 1 ≤ samples * 2 * amplitude := mul_le_mul_of_nonneg_left (by omega) (by omega)
  have less := product.trans_lt low
  omega

theorem Low.start (low : Low period amplitude samples) (rising : 0 < amplitude) : rise period amplitude samples = 0 := by
  have near := low.near rising
  rw [rise_zero (by omega) rising.le,away_start (by omega)]
  exact low

theorem Low.finish (low : Low period amplitude samples) (rising : 0 < amplitude) (apart : 0 < samples) :
    rise period amplitude (period - samples) = 0 := by
  have near := low.near rising
  rw [rise_zero (by omega) rising.le,away_end (by omega) apart]
  exact low

theorem rise_flat (place : Nat) : rise period 0 place = 0 := by simp [rise]

theorem later_inside (inside : 2 ^ 32 % period + place < period) :
    (2 ^ 32 + place) % period = 2 ^ 32 % period + place := by
  rw [← Nat.mod_add_mod,Nat.mod_eq_of_lt inside]

theorem later_outside (outside : period ≤ 2 ^ 32 % period + place) (small : place < period) :
    (2 ^ 32 + place) % period = 2 ^ 32 % period + place - period := by
  have missing := Nat.mod_lt (2 ^ 32) (show 0 < period by omega)
  rw [← Nat.mod_add_mod,Nat.mod_eq_sub_mod outside,Nat.mod_eq_of_lt (by omega)]

-- One of the two numbers of samples is 0: the later place lies before the next low point or after it.
theorem rise_later (climbs : 0 < amplitude) (small : place < period)
    (finish : Low period amplitude (period - 2 ^ 32 % period - place))
    (start : Low period amplitude (2 ^ 32 % period + place - period)) :
    rise period amplitude ((2 ^ 32 + place) % period) = 0 := by
  by_cases inside : 2 ^ 32 % period + place < period
  · rw [later_inside inside,show 2 ^ 32 % period + place = period - (period - 2 ^ 32 % period - place) by omega]
    exact finish.finish climbs (by omega)
  · rw [later_outside (by omega) small]
    exact start.start climbs

theorem repeats_of_joins (long : 2 ≤ period) (rising : 0 ≤ amplitude) (joins : Joins period offset amplitude) :
    Repeats period offset amplitude := by
  intro place before small after
  have missing := Nat.mod_lt (2 ^ 32) (show 0 < period by omega)
  rcases joins with none | divides | low
  · omega
  · rw [later_inside (by omega),divides,Nat.zero_add]
  by_cases flat : amplitude = 0
  · rw [flat,rise_flat,rise_flat]
  have climbs : 0 < amplitude := by omega
  split at low
  · rcases low with start | ⟨finish,start⟩
    · have near := start.near climbs
      have bottom : rise period amplitude place = 0 := (start.mono rising (by omega)).start climbs
      rw [bottom,later_inside (by omega)]
      exact (start.mono rising (by omega)).start climbs
    · have bottom : rise period amplitude place = 0 := (start.mono rising (by omega)).start climbs
      rw [bottom]
      exact rise_later climbs small (finish.mono rising (by omega)) (start.mono rising (by omega))
  · have ends (finish : Low period amplitude (period - place)) : rise period amplitude place = 0 := by
      rw [show place = period - (period - place) by omega]
      exact finish.finish climbs (by omega)
    rcases low with ⟨start,finish⟩ | finish | ⟨two,last⟩
    · rw [ends (finish.mono rising (by omega))]
      exact rise_later climbs small (finish.mono rising (by omega)) (start.mono rising (by omega))
    · have close := finish.near climbs
      rw [ends (finish.mono rising (by omega)),later_outside (by omega) small,
        show 2 ^ 32 % period + place - period = period - (period - 2 ^ 32 % period + (period - place)) by omega]
      exact (finish.mono rising (by omega)).finish climbs (by omega)
    · have four : 4 ≤ period := by
        by_contra short
        obtain rfl | rfl : period = 2 ∨ period = 3 := by omega
        all_goals norm_num at two
      rw [later_outside (by omega) small,two,show 2 + place - period = 1 by omega,show place = period - 1 by omega]
      unfold rise
      rw [away_start (by omega),away_end (by omega) one_pos]

-- The first place at which the reading is higher than the lowest.
theorem first_rise (climbs : 0 < amplitude) (wide : 2 ≤ period / 2) :
    ∃ first, first < period / 2 ∧ ¬ Low period amplitude first ∧ ∀ samples < first, Low period amplitude samples := by
  have high : ¬ Low period amplitude ((period / 2 + 1) / 2) := fun low => by
    have near := low.near climbs
    omega
  have found : ∃ samples, ¬ Low period amplitude samples := ⟨_,high⟩
  refine ⟨Nat.find found,?_,Nat.find_spec found,?_⟩
  · have least := Nat.find_min' found high
    omega
  · intro samples less
    exact Decidable.not_not.mp (Nat.find_min found less)

theorem low_zero (long : 2 ≤ period) : Low period amplitude 0 := by
  unfold Low
  rw [Nat.cast_zero,Int.zero_mul,Int.zero_mul]
  omega

theorem low_of_rise (long : 2 ≤ period) (rising : 0 ≤ amplitude) (bottom : rise period amplitude place = 0) :
    place < period / 2 ∧ Low period amplitude place ∨ period / 2 ≤ place ∧ Low period amplitude (period - place) := by
  have low := (rise_zero long rising).mp bottom
  unfold away at low
  split at low
  · exact .inl ⟨‹_›,low⟩
  · exact .inr ⟨by omega,low⟩

theorem steep_climbs (long : 2 ≤ period) (rising : 0 ≤ amplitude) (steep : ¬ Low period amplitude 1) (less : fewer < samples) :
    (fewer : Int) * 2 * amplitude / (period / 2 : Nat) < samples * 2 * amplitude / (period / 2 : Nat) := by
  have half : ((period / 2 : Nat) : Int) ≠ 0 := by omega
  have slope : ((period / 2 : Nat) : Int) ≤ 2 * amplitude := by
    unfold Low at steep
    omega
  have farther : ((fewer + 1 : Nat) : Int) * 2 * amplitude ≤ samples * 2 * amplitude :=
    mul_le_mul_of_nonneg_right (by omega) rising
  have step : (fewer : Int) * 2 * amplitude + 1 * (period / 2 : Nat) ≤ samples * 2 * amplitude := by
    push_cast at farther
    linarith only [farther,slope]
  have reached := Int.ediv_le_ediv (show 0 < ((period / 2 : Nat) : Int) by omega) step
  rw [Int.add_mul_ediv_right _ _ half] at reached
  omega

theorem joins_start (repeats : Repeats period offset amplitude) (long : 2 ≤ period) (climbs : 0 < amplitude)
    (wide : 2 ≤ period / 2) (shifted : offset ≠ 0) (room : offset + period ≤ 2 ^ 32) (early : 2 ^ 32 % period ≠ 0) :
    Low period amplitude (2 ^ 32 % period + offset - 1) ∨
      Low period amplitude (period - 2 ^ 32 % period) ∧ Low period amplitude (offset - 1) := by
  have missing := Nat.mod_lt (2 ^ 32) (show 0 < period by omega)
  obtain ⟨first,inside,high,lower⟩ := first_rise climbs wide
  have bottom : rise period amplitude (2 ^ 32 % period) = 0 := by
    have same := repeats 0 (by omega) (by omega) (by omega)
    rw [later_inside (by omega),Nat.add_zero] at same
    exact same.trans ((low_zero long).start climbs)
  have raised : rise period amplitude first ≠ 0 := by
    rw [Ne,rise_zero long climbs.le,away_start inside]
    exact high
  rcases low_of_rise long climbs.le bottom with ⟨near,low⟩ | ⟨far,low⟩
  · refine .inl (lower _ ?_)
    by_contra reached
    have after : 2 ^ 32 % period < first := by
      by_contra beyond
      exact high (low.mono climbs.le (by omega))
    have same := repeats (first - 2 ^ 32 % period) (by omega) (by omega) (by omega)
    rw [later_inside (by omega),show 2 ^ 32 % period + (first - 2 ^ 32 % period) = first by omega] at same
    exact raised (same.trans ((lower _ (by omega)).start climbs))
  · refine .inr ⟨low,lower _ ?_⟩
    by_contra reached
    have after : period - 2 ^ 32 % period < first := by
      by_contra beyond
      exact high (low.mono climbs.le (by omega))
    have same := repeats first (by omega) (by omega) (by omega)
    rw [later_outside (by omega) (by omega)] at same
    exact raised (same.symm.trans ((lower _ (by omega)).start climbs))

-- `back` samples before the low point that follows the wrap.
theorem Repeats.backward (repeats : Repeats period offset amplitude) (short : period ≤ 2 ^ 31) (small : offset < 2 ^ 32)
    (crowded : 2 ^ 32 < offset + period) (back : Nat) (some : 0 < back) (few : back ≤ 2 ^ 32 - offset) :
    rise period amplitude ((2 ^ 32 + (period - back)) % period) = rise period amplitude (period - back) :=
  repeats (period - back) (by omega) (by omega) (by omega)

theorem joins_steep (repeats : Repeats period offset amplitude) (long : 2 ≤ period) (climbs : 0 < amplitude)
    (middle : period % 2 = 0 ∨ 2 * amplitude < (period / 2 : Nat)) (short : period ≤ 2 ^ 31) (small : offset < 2 ^ 32)
    (crowded : 2 ^ 32 < offset + period) (early : 2 ^ 32 % period ≠ 0) (steep : ¬ Low period amplitude 1) :
    2 ^ 32 % period = 2 ∧ offset = 2 ^ 32 - 1 := by
  have missing := Nat.mod_lt (2 ^ 32) (show 0 < period by omega)
  have even : period % 2 = 0 := middle.resolve_right fun flat => steep (by unfold Low; omega)
  have one := repeats.backward short small crowded 1 one_pos (by omega)
  rw [later_outside (by omega) (by omega),show 2 ^ 32 % period + (period - 1) - period = 2 ^ 32 % period - 1 by omega,
    rise_of_nonneg climbs.le,rise_of_nonneg climbs.le,away_end (by omega) one_pos] at one
  have level : away period (2 ^ 32 % period - 1) = 1 := by
    rcases Nat.lt_trichotomy (away period (2 ^ 32 % period - 1)) 1 with below | same | above
    · exact absurd one (steep_climbs long climbs.le steep below).ne
    · exact same
    · exact absurd one (steep_climbs long climbs.le steep above).ne'
  have two : 2 ^ 32 % period = 2 := by
    unfold away at level
    split at level <;> omega
  refine ⟨two,?_⟩
  -- With a second sample before the wrap, a reading higher than the lowest would meet the low point.
  by_contra more
  have same := repeats.backward short small crowded 2 two_pos (by omega)
  rw [later_outside (by omega) (by omega),show 2 ^ 32 % period + (period - 2) - period = 0 by omega,
    (low_zero long).start climbs] at same
  rcases low_of_rise long climbs.le same.symm with ⟨near,low⟩ | ⟨far,low⟩
  · omega
  · exact steep (low.mono climbs.le (by omega))

theorem joins_finish (repeats : Repeats period offset amplitude) (long : 2 ≤ period) (climbs : 0 < amplitude)
    (middle : period % 2 = 0 ∨ 2 * amplitude < (period / 2 : Nat)) (wide : 2 ≤ period / 2) (short : period ≤ 2 ^ 31)
    (small : offset < 2 ^ 32) (crowded : 2 ^ 32 < offset + period) (early : 2 ^ 32 % period ≠ 0) :
    Low period amplitude (2 ^ 32 % period - 1) ∧ Low period amplitude (2 ^ 32 - offset) ∨
      Low period amplitude (period - 2 ^ 32 % period + (2 ^ 32 - offset)) ∨ 2 ^ 32 % period = 2 ∧ offset = 2 ^ 32 - 1 := by
  by_cases flat : Low period amplitude 1
  case neg => exact .inr (.inr (joins_steep repeats long climbs middle short small crowded early flat))
  have missing := Nat.mod_lt (2 ^ 32) (show 0 < period by omega)
  obtain ⟨first,inside,high,lower⟩ := first_rise climbs wide
  have positive : 0 < first := by
    by_contra none
    exact high ((low_zero long).mono climbs.le (by omega))
  have raised : rise period amplitude (period - first) ≠ 0 := by
    rw [Ne,rise_zero long climbs.le,away_end (by omega) positive]
    exact high
  have one := repeats.backward short small crowded 1 one_pos (by omega)
  rw [later_outside (by omega) (by omega),show 2 ^ 32 % period + (period - 1) - period = 2 ^ 32 % period - 1 by omega,
    flat.finish climbs one_pos] at one
  rcases low_of_rise long climbs.le one with ⟨near,low⟩ | ⟨far,low⟩
  · refine .inl ⟨low,lower _ ?_⟩
    by_contra reached
    have after : 2 ^ 32 % period - 1 < first := by
      by_contra beyond
      exact high (low.mono climbs.le (by omega))
    have same := repeats.backward short small crowded first positive (by omega)
    apply raised
    rw [← same]
    exact rise_later climbs (by omega) (lower _ (by omega)) (lower _ (by omega))
  · refine .inr (.inl (lower _ ?_))
    by_contra reached
    have after : period - (2 ^ 32 % period - 1) < first := by
      by_contra beyond
      exact high (low.mono climbs.le (by omega))
    have same := repeats.backward short small crowded (first - (period - 2 ^ 32 % period)) (by omega) (by omega)
    rw [later_outside (by omega) (by omega),show 2 ^ 32 % period + (period - (first - (period - 2 ^ 32 % period))) - period =
      period - first by omega] at same
    exact raised (same.trans ((lower _ (by omega)).finish climbs (by omega)))

theorem repeats_iff (long : 2 ≤ period) (rising : 0 ≤ amplitude)
    (middle : period % 2 = 0 ∨ 2 * amplitude < (period / 2 : Nat)) (short : period ≤ 2 ^ 31) (small : offset < 2 ^ 32) :
    Repeats period offset amplitude ↔ Joins period offset amplitude := by
  refine ⟨?_,repeats_of_joins long rising⟩
  intro repeats
  by_cases shifted : offset = 0
  · exact .inl shifted
  by_cases early : 2 ^ 32 % period = 0
  · exact .inr (.inl early)
  refine .inr (.inr ?_)
  by_cases flat : amplitude = 0
  · have low (samples : Nat) : Low period amplitude samples := by
      unfold Low
      rw [flat,Int.mul_zero]
      omega
    split
    · exact .inl (low _)
    · exact .inl ⟨low _,low _⟩
  have climbs : 0 < amplitude := by omega
  have wide : 2 ≤ period / 2 := by
    by_contra narrow
    obtain rfl | rfl : period = 2 ∨ period = 3 := by omega
    · norm_num at early
    · omega
  split
  · exact joins_start repeats long climbs wide shifted ‹_› early
  · exact joins_finish repeats long climbs middle wide short small (by omega) early

end Wave

section Numbers

variable {simulation : Simulation} {profile : FakeSensorProfile} {sampleNumber later lowest highest : UInt32}

-- Half a period, rounded up, is the farthest that a sample lies from a low point.
structure Steady (profile : FakeSensorProfile) : Prop where
  period : 2 ≤ profile.wavePeriodSamples.toNat
  rising : 0 ≤ profile.amplitudeCentiC.toInt
  middle : profile.wavePeriodSamples.toNat % 2 = 0 ∨
    2 * profile.amplitudeCentiC.toInt < (profile.wavePeriodSamples.toNat / 2 : Nat)
  doubled : (profile.wavePeriodSamples.toNat + 1) / 2 * 2 < 2 ^ 31
  scaled : ((profile.wavePeriodSamples.toNat + 1) / 2 * 2 : Nat) * profile.amplitudeCentiC.toInt < 2 ^ 31
  low : -2 ^ 15 ≤ profile.centerCentiC.toInt - profile.amplitudeCentiC.toInt
  high : profile.centerCentiC.toInt + profile.amplitudeCentiC.toInt < 2 ^ 15

def Aligned (profile : FakeSensorProfile) : Prop :=
  Joins profile.wavePeriodSamples.toNat profile.waveOffsetSamples.toNat profile.amplitudeCentiC.toInt

def Silent (simulation : Simulation) (profile : FakeSensorProfile) : Prop :=
  simulation.disconnects = true ∧ profile.disconnectStartSample.toNat = 0 ∧
    simulation.disconnectCycleSamples ≤ profile.disconnectEndSample.toNat

def Unbroken (simulation : Simulation) (profile : FakeSensorProfile) : Prop :=
  simulation.disconnects = false ∨ profile.disconnectEndSample.toNat ≤ profile.disconnectStartSample.toNat ∨
    simulation.disconnectCycleSamples ≤ profile.disconnectStartSample.toNat

structure Checked (simulation : Simulation) : Prop where
  cycle : simulation.disconnects = true → simulation.disconnectCycleSamples ≠ 0
  profiles : ∀ index, Silent simulation (simulation.profiles index) ∨
    Steady (simulation.profiles index) ∧ Aligned (simulation.profiles index)

-- The sensor is connected at a low point and at the top of its wave.
def Extremes (simulation : Simulation) (profile : FakeSensorProfile) : Prop :=
  ∃ lowest highest, position profile lowest = 0 ∧ position profile highest = profile.wavePeriodSamples.toNat / 2 ∧
    isConnected simulation profile lowest = .ok true ∧ isConnected simulation profile highest = .ok true

-- It is connected from one period before the sum of sample and offset wraps to one period after.
def AcrossWrap (simulation : Simulation) (profile : FakeSensorProfile) : Prop :=
  ∀ sampleNumber : UInt32,
    2 ^ 32 ≤ sampleNumber.toNat + profile.waveOffsetSamples.toNat + profile.wavePeriodSamples.toNat →
    sampleNumber.toNat + profile.waveOffsetSamples.toNat < 2 ^ 32 + profile.wavePeriodSamples.toNat →
    isConnected simulation profile sampleNumber = .ok true

theorem distance_le (sampleNumber : UInt32) (long : 2 ≤ profile.wavePeriodSamples.toNat) :
    distance profile sampleNumber ≤ (profile.wavePeriodSamples.toNat + 1) / 2 := by
  have inside : position profile sampleNumber < profile.wavePeriodSamples.toNat := Nat.mod_lt _ (by omega)
  unfold distance
  split <;> omega

theorem Silent.disconnected (silent : Silent simulation profile) : isConnected simulation profile sampleNumber ≠ .ok true := by
  obtain ⟨simulated,start,whole⟩ := silent
  intro known
  unfold isConnected at known
  rw [simulated] at known
  simp only [Bool.not_true,Bool.false_eq_true,if_false,bind_ok,remainder_ok] at known
  obtain ⟨place,⟨nonzero,rfl⟩,connected⟩ := known
  have inside : sampleNumber.toNat % simulation.disconnectCycleSamples < simulation.disconnectCycleSamples :=
    Nat.mod_lt _ (Nat.pos_of_ne_zero nonzero)
  simp only [pure,Except.pure,Except.ok.injEq,Bool.or_eq_true,decide_eq_true_eq] at connected
  omega

theorem Steady.admissible (steady : Steady profile) : Admissible profile sampleNumber := by
  obtain ⟨period,rising,middle,doubled,scaled,low,high⟩ := steady
  have far := distance_le sampleNumber period
  have near : 2 * distance profile sampleNumber ≤ profile.wavePeriodSamples.toNat ∨
      2 * profile.amplitudeCentiC.toInt < (profile.wavePeriodSamples.toNat / 2 : Nat) := by
    rcases middle with even | flat
    · exact .inl (by omega)
    · exact .inr flat
  have inside := (height_bounded sampleNumber period).mpr ⟨rising,near⟩
  have slope : (distance profile sampleNumber : Int) * 2 * profile.amplitudeCentiC.toInt ≤
      ((profile.wavePeriodSamples.toNat + 1) / 2 * 2 : Nat) * profile.amplitudeCentiC.toInt :=
    mul_le_mul_of_nonneg_right (by omega) rising
  have above : 0 ≤ (distance profile sampleNumber : Int) * 2 * profile.amplitudeCentiC.toInt := by positivity
  apply admissible_iff.mpr
  exact ⟨⟨period,by omega,⟨by linarith only [above],slope.trans_lt scaled⟩,by omega,by omega⟩,inside⟩

theorem height_rise (sampleNumber : UInt32) : height profile sampleNumber =
    rise profile.wavePeriodSamples.toNat profile.amplitudeCentiC.toInt (position profile sampleNumber) := rfl

theorem position_after (apart : later.toNat = sampleNumber.toNat + profile.wavePeriodSamples.toNat)
    (before : sampleNumber.toNat + profile.waveOffsetSamples.toNat < 2 ^ 32) (long : 2 ≤ profile.wavePeriodSamples.toNat)
    (after : 2 ^ 32 ≤ later.toNat + profile.waveOffsetSamples.toNat) :
    position profile later = later.toNat + profile.waveOffsetSamples.toNat - 2 ^ 32 ∧
      position profile sampleNumber = (2 ^ 32 + (later.toNat + profile.waveOffsetSamples.toNat - 2 ^ 32)) %
        profile.wavePeriodSamples.toNat := by
  have small := later.toNat_lt
  have offset := profile.waveOffsetSamples.toNat_lt
  unfold position
  rw [UInt32.toNat_add,UInt32.toNat_add]
  constructor
  · rw [Nat.mod_eq_sub_mod after,Nat.mod_eq_of_lt (show later.toNat + profile.waveOffsetSamples.toNat - 2 ^ 32 < 2 ^ 32 by omega),
      Nat.mod_eq_of_lt (by omega)]
  · rw [Nat.mod_eq_of_lt before,show 2 ^ 32 + (later.toNat + profile.waveOffsetSamples.toNat - 2 ^ 32) =
      sampleNumber.toNat + profile.waveOffsetSamples.toNat + profile.wavePeriodSamples.toNat by omega,Nat.add_mod_right]

theorem Steady.repeats_iff (steady : Steady profile) :
    Repeats profile.wavePeriodSamples.toNat profile.waveOffsetSamples.toNat profile.amplitudeCentiC.toInt ↔ Aligned profile :=
  FakeSensors.repeats_iff steady.period steady.rising steady.middle (by have := steady.doubled; omega)
    profile.waveOffsetSamples.toNat_lt

theorem Steady.height_wraps (steady : Steady profile) (aligned : Aligned profile)
    (apart : later.toNat = sampleNumber.toNat + profile.wavePeriodSamples.toNat)
    (before : sampleNumber.toNat + profile.waveOffsetSamples.toNat < 2 ^ 32)
    (after : 2 ^ 32 ≤ later.toNat + profile.waveOffsetSamples.toNat) :
    height profile later = height profile sampleNumber := by
  have small := later.toNat_lt
  obtain ⟨place,earlier⟩ := position_after apart before steady.period after
  rw [height_rise,height_rise,place,earlier]
  exact (steady.repeats_iff.mpr aligned _ (by omega) (by omega) (by omega)).symm

theorem regular_of_checked (checked : Checked simulation) : Regular simulation := by
  refine ⟨checked.cycle,?_,?_⟩
  · intro index sampleNumber known
    rcases checked.profiles index with silent | ⟨steady,_⟩
    · exact absurd known silent.disconnected
    · exact steady.admissible
  · intro index sampleNumber later apart before after known _
    rcases checked.profiles index with silent | ⟨steady,aligned⟩
    · exact absurd known silent.disconnected
    · exact steady.height_wraps aligned apart before after

theorem Unbroken.connected (unbroken : Unbroken simulation profile)
    (cycle : simulation.disconnects = true → simulation.disconnectCycleSamples ≠ 0) :
    isConnected simulation profile sampleNumber = .ok true := by
  unfold isConnected
  cases simulated : simulation.disconnects with
  | false => rfl
  | true =>
    have nonzero := cycle simulated
    have inside : sampleNumber.toNat % simulation.disconnectCycleSamples < simulation.disconnectCycleSamples :=
      Nat.mod_lt _ (Nat.pos_of_ne_zero nonzero)
    simp only [Bool.not_true,Bool.false_eq_true,if_false,bind_ok,remainder_ok]
    refine ⟨_,⟨nonzero,rfl⟩,?_⟩
    simp only [pure,Except.pure,Except.ok.injEq,Bool.or_eq_true,decide_eq_true_eq]
    rcases unbroken with never | empty | outside
    · cases simulated.symm.trans never
    · omega
    · omega

theorem position_reached (profile : FakeSensorProfile) (place : Nat) (small : place < 2 ^ 32) :
    ∃ sampleNumber, position profile sampleNumber = place % profile.wavePeriodSamples.toNat := by
  refine ⟨.ofNat place - profile.waveOffsetSamples,?_⟩
  unfold position
  rw [UInt32.sub_add_cancel,UInt32.toNat_ofNat_of_lt' small]

theorem steady_of_admissible (bottom : position profile lowest = 0)
    (top : position profile highest = profile.wavePeriodSamples.toNat / 2) (least : Admissible profile lowest)
    (most : Admissible profile highest) : Steady profile := by
  obtain ⟨period,rising,_,_,_,lower,_⟩ := least
  obtain ⟨_,_,middle,doubled,scaled,_,upper⟩ := most
  have half : 0 < ((profile.wavePeriodSamples.toNat / 2 : Nat) : Int) := by omega
  have near : distance profile lowest = 0 := by
    unfold distance
    rw [bottom,if_pos (by omega)]
  have far : distance profile highest = (profile.wavePeriodSamples.toNat + 1) / 2 := by
    unfold distance
    rw [top,if_neg (Nat.lt_irrefl _)]
    omega
  rw [near] at lower
  rw [far] at middle doubled scaled upper
  refine ⟨period,rising,?_,doubled,by push_cast at scaled ⊢; exact scaled,?_,?_⟩
  · rcases middle with even | flat
    · exact .inl (by omega)
    · exact .inr flat
  · by_contra beneath
    have product := Int.mul_pos (show 0 < -2 ^ 15 - profile.centerCentiC.toInt + profile.amplitudeCentiC.toInt by omega) half
    simp only [Nat.cast_zero,Int.zero_mul] at lower
    omega
  · have reached : (2 * profile.amplitudeCentiC.toInt) * (profile.wavePeriodSamples.toNat / 2 : Nat) ≤
        ((profile.wavePeriodSamples.toNat + 1) / 2 : Nat) * 2 * profile.amplitudeCentiC.toInt := by
      have longer : ((profile.wavePeriodSamples.toNat / 2 : Nat) : Int) ≤ ((profile.wavePeriodSamples.toNat + 1) / 2 : Nat) := by
        omega
      have product := mul_le_mul_of_nonneg_right longer rising
      linarith only [product]
    have below := lt_of_mul_lt_mul_right (reached.trans_lt upper) half.le
    omega

theorem Unbroken.extremes (unbroken : Unbroken simulation profile)
    (cycle : simulation.disconnects = true → simulation.disconnectCycleSamples ≠ 0) : Extremes simulation profile := by
  have size := profile.wavePeriodSamples.toNat_lt
  obtain ⟨lowest,bottom⟩ := position_reached profile 0 (by decide)
  obtain ⟨highest,top⟩ := position_reached profile (profile.wavePeriodSamples.toNat / 2) (by omega)
  rw [Nat.zero_mod] at bottom
  refine ⟨lowest,highest,bottom,?_,unbroken.connected cycle,unbroken.connected cycle⟩
  rw [top]
  by_cases none : profile.wavePeriodSamples.toNat = 0
  · rw [none]
  · exact Nat.mod_eq_of_lt (by omega)

theorem repeats_of_wraps (long : 2 ≤ profile.wavePeriodSamples.toNat)
    (wraps : ∀ sampleNumber later : UInt32, later.toNat = sampleNumber.toNat + profile.wavePeriodSamples.toNat →
      sampleNumber.toNat + profile.waveOffsetSamples.toNat < 2 ^ 32 →
      2 ^ 32 ≤ later.toNat + profile.waveOffsetSamples.toNat → height profile later = height profile sampleNumber) :
    Repeats profile.wavePeriodSamples.toNat profile.waveOffsetSamples.toNat profile.amplitudeCentiC.toInt := by
  intro place before small after
  obtain ⟨later,last⟩ : ∃ later : UInt32, later.toNat = place + 2 ^ 32 - profile.waveOffsetSamples.toNat :=
    ⟨.ofNat _,UInt32.toNat_ofNat_of_lt' (by rw [UInt32.size]; omega)⟩
  obtain ⟨sampleNumber,first⟩ : ∃ sampleNumber : UInt32, sampleNumber.toNat =
      place + 2 ^ 32 - profile.waveOffsetSamples.toNat - profile.wavePeriodSamples.toNat :=
    ⟨.ofNat _,UInt32.toNat_ofNat_of_lt' (by rw [UInt32.size]; omega)⟩
  have offset := profile.waveOffsetSamples.toNat_lt
  have apart : later.toNat = sampleNumber.toNat + profile.wavePeriodSamples.toNat := by omega
  have same := wraps sampleNumber later apart (by omega) (by omega)
  obtain ⟨place_later,place_earlier⟩ := position_after apart (by omega) long (by omega)
  rw [height_rise,height_rise,place_later,place_earlier,
    show later.toNat + profile.waveOffsetSamples.toNat - 2 ^ 32 = place by omega] at same
  exact same.symm

theorem steady_of_regular (regular : Regular simulation) {index : Fin Wire.sensorCount}
    (read : Extremes simulation (simulation.profiles index)) : Steady (simulation.profiles index) := by
  obtain ⟨lowest,highest,bottom,top,known,alsoKnown⟩ := read
  exact steady_of_admissible bottom top (regular.samples index lowest known) (regular.samples index highest alsoKnown)

theorem aligned_of_regular (regular : Regular simulation) {index : Fin Wire.sensorCount}
    (steady : Steady (simulation.profiles index)) (across : AcrossWrap simulation (simulation.profiles index)) :
    Aligned (simulation.profiles index) := by
  apply steady.repeats_iff.mp
  apply repeats_of_wraps steady.period
  intro sampleNumber later apart before after
  exact regular.wraps index sampleNumber later apart before after (across _ (by omega) (by omega)) (across _ (by omega) (by omega))

theorem checked_of_regular (regular : Regular simulation)
    (whole : ∀ index, Silent simulation (simulation.profiles index) ∨ Unbroken simulation (simulation.profiles index)) :
    Checked simulation := by
  refine ⟨regular.cycle,?_⟩
  intro index
  refine (whole index).imp_right fun unbroken => ?_
  have steady := steady_of_regular regular (unbroken.extremes regular.cycle)
  exact ⟨steady,aligned_of_regular regular steady fun _ _ _ => unbroken.connected regular.cycle⟩

end Numbers

end Thermometer.Firmware.FakeSensors
