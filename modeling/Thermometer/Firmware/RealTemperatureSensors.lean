import Thermometer.Firmware.State
import Thermometer.Lib.CyclicCode

-- real_temperature_sensors.c: the checksum that a scratchpad from the one-wire bus has to pass.
namespace Thermometer.Firmware.RealSensors
open CyclicCode

-- One turn of the inner loop of `dallas_crc8`.
def dallasBit (state : UInt8 × UInt8) : UInt8 × UInt8 :=
  let (crc,byte) := state
  let mix := (crc ^^^ byte) &&& 0x01 ≠ 0
  let crc := crc >>> 1
  (if mix then crc ^^^ 0x8C else crc,byte >>> 1)

def dallasByte (crc byte : UInt8) : UInt8 := (dallasBit^[8] (crc,byte)).1

def dallasCrc8 (data : List UInt8) (length : Nat) : UInt8 := (data.take length).foldl dallasByte 0

inductive EspError where
  | notFound | invalidCrc
  deriving DecidableEq

-- `slots` says which time slots of the bus were sampled high.
def oneWireReadByte (slots : Nat → Bool) (first : Nat) : UInt8 :=
  (List.range 8).foldl (fun value bit => if slots (first + bit) then value ||| 1 <<< UInt8.ofNat bit else value) 0

def readScratchpad (slots : Nat → Bool) : List UInt8 := (List.range 9).map fun index => oneWireReadByte slots (8 * index)

def readTemperature (present : Bool) (slots : Nat → Bool) : Except EspError Int16 :=
  if !present then .error .notFound
  else
    let scratchpad := readScratchpad slots
    if dallasCrc8 scratchpad 8 ≠ scratchpad.getD 8 0 then .error .invalidCrc
    else .ok ((scratchpad.getD 0 0).toUInt16 ||| (scratchpad.getD 1 0).toUInt16 <<< 8).toInt16

-- Each of the two resets may find no probe. The temperature is in sixteenths of a degree.
def temperatureSensorRead (sensorIndex : Nat) (started present : Bool) (slots : Nat → Bool) : SensorReading :=
  if sensorIndex < Wire.sensorCount ∧ started then
    match readTemperature present slots with
    | .ok raw => ⟨true,Int16.ofInt ((raw.toInt * 100).tdiv 16)⟩
    | .error _ => ⟨false,0⟩
  else ⟨false,0⟩

def generator : BitVec 8 := 0x8C

theorem lowBit (byte : UInt8) : byte &&& 0x01 ≠ 0 ↔ byte.toBitVec.getLsbD 0 = true := by
  have low : (byte &&& 0x01).toBitVec = (BitVec.ofBool (byte.toBitVec.getLsbD 0)).setWidth 8 := by
    rw [UInt8.toBitVec_and]
    exact BitVec.and_one_eq_setWidth_ofBool_getLsbD
  rw [ne_eq,← UInt8.toBitVec_inj,low]
  cases byte.toBitVec.getLsbD 0 <;> decide

theorem halved (byte : UInt8) : (byte >>> 1).toBitVec = byte.toBitVec >>> 1 := rfl

theorem dallasBit_absorb (crc byte : UInt8) :
    (dallasBit (crc,byte)).1.toBitVec = absorb generator crc.toBitVec (byte.toBitVec.getLsbD 0) := by
  have mixed : (crc ^^^ byte).toBitVec.getLsbD 0 =
      (crc.toBitVec ^^^ (BitVec.ofBool (byte.toBitVec.getLsbD 0)).setWidth 8).getLsbD 0 := by
    rw [UInt8.toBitVec_xor,BitVec.getLsbD_xor,BitVec.getLsbD_xor]
    cases byte.toBitVec.getLsbD 0 <;> rfl
  have rest : crc.toBitVec >>> 1 = (crc.toBitVec ^^^ (BitVec.ofBool (byte.toBitVec.getLsbD 0)).setWidth 8) >>> 1 := by
    rw [BitVec.ushiftRight_xor_distrib]
    cases byte.toBitVec.getLsbD 0 <;> exact BitVec.xor_zero.symm
  unfold dallasBit absorb shift
  rw [← mixed,← rest]
  simp only [lowBit]
  split
  · rw [UInt8.toBitVec_xor,halved]
    rfl
  · rw [halved]

theorem dallasBits_feed (n : Nat) (crc byte : UInt8) : (dallasBit^[n] (crc,byte)).1.toBitVec =
    feed generator crc.toBitVec ((List.range n).map byte.toBitVec.getLsbD) := by
  induction n generalizing crc byte with
  | zero => rfl
  | succ n ih =>
    have next : dallasBit (crc,byte) = ((dallasBit (crc,byte)).1,byte >>> 1) := rfl
    have later : (List.range n).map (byte >>> 1).toBitVec.getLsbD =
        (List.range n).map (byte.toBitVec.getLsbD ∘ Nat.succ) := by
      apply List.map_congr_left
      intro i _
      rw [halved,BitVec.getLsbD_ushiftRight,Nat.add_comm]
      rfl
    rw [Function.iterate_succ_apply,next,ih,later,dallasBit_absorb,List.range_succ_eq_map,List.map_cons,List.map_map]
    rfl

theorem dallasByte_feed (crc byte : UInt8) :
    (dallasByte crc byte).toBitVec = feed generator crc.toBitVec (bits byte.toBitVec) :=
  dallasBits_feed 8 crc byte

def transmitted (data : List UInt8) : List Bool := data.flatMap fun byte => bits byte.toBitVec

theorem dallasBytes_feed (data : List UInt8) (crc : UInt8) :
    (data.foldl dallasByte crc).toBitVec = feed generator crc.toBitVec (transmitted data) := by
  induction data generalizing crc with
  | nil => rfl
  | cons byte rest ih =>
    have split : transmitted (byte :: rest) = bits byte.toBitVec ++ transmitted rest := List.flatMap_cons
    rw [List.foldl_cons,ih,dallasByte_feed,split,feed_append]

theorem generator_top : generator.getLsbD 7 = true := by decide

theorem dallasCrc8_feed (data : List UInt8) : (dallasCrc8 data data.length).toBitVec = feed generator 0 (transmitted data) := by
  rw [dallasCrc8,List.take_length]
  exact dallasBytes_feed data 0

-- The checksum is the remainder of a division by X⁸ + X⁵ + X⁴ + 1.
theorem dallasCrc8_remainder (data : List UInt8) : polynomial (bits (dallasCrc8 data data.length).toBitVec) =
    Polynomial.X ^ 8 * polynomial (transmitted data) %ₘ
      (Polynomial.X ^ 8 + Polynomial.X ^ 5 + Polynomial.X ^ 4 + 1) := by
  have divides : divisor generator = Polynomial.X ^ 8 + Polynomial.X ^ 5 + Polynomial.X ^ 4 + 1 := by
    have taps : bits generator = [false,false,true,true,false,false,false,true] := by decide
    rw [divisor,taps]
    simp [polynomial]
    ring
  rw [dallasCrc8_feed,← divides]
  exact feed_remainder generator (transmitted data)

@[simp] theorem transmitted_append (first second : List UInt8) :
    transmitted (first ++ second) = transmitted first ++ transmitted second := List.flatMap_append

@[simp] theorem transmitted_singleton (byte : UInt8) : transmitted [byte] = bits byte.toBitVec := List.append_nil _

theorem length_transmitted (data : List UInt8) : (transmitted data).length = 8 * data.length := by
  simp [transmitted,List.length_flatMap,Nat.mul_comm]

theorem transmitted_xor {data errors : List UInt8} (aligned : data.length = errors.length) :
    transmitted (List.zipWith (· ^^^ ·) data errors) = List.zipWith xor (transmitted data) (transmitted errors) := by
  induction data generalizing errors with
  | nil => rfl
  | cons byte rest ih =>
    cases errors with
    | nil => cases aligned
    | cons error later =>
      have same := ih (Nat.succ.inj aligned)
      rw [transmitted,transmitted,transmitted,List.zipWith_cons_cons,List.flatMap_cons,List.flatMap_cons,List.flatMap_cons,
        List.zipWith_append (by simp),← bits_xor]
      exact congrArg₂ (· ++ ·) rfl same

theorem dallasCrc8_xor {data errors : List UInt8} (aligned : data.length = errors.length) :
    dallasCrc8 (List.zipWith (· ^^^ ·) data errors) data.length =
      dallasCrc8 data data.length ^^^ dallasCrc8 errors errors.length := by
  have length : (List.zipWith (· ^^^ ·) data errors).length = data.length := by simp [aligned]
  have bitwise : (transmitted data).length = (transmitted errors).length := by
    rw [length_transmitted,length_transmitted,aligned]
  apply UInt8.toBitVec_inj.mp
  conv_lhs => rw [← length]
  rw [dallasCrc8_feed,UInt8.toBitVec_xor,dallasCrc8_feed,dallasCrc8_feed,transmitted_xor aligned,← feed_xor _ _ _ bitwise]
  rfl

theorem checked_iff (data : List UInt8) (crc : UInt8) :
    dallasCrc8 data data.length = crc ↔ feed generator 0 (transmitted (data ++ [crc])) = 0 := by
  rw [transmitted_append,transmitted_singleton,feed_append,feed_own generator_top,← dallasCrc8_feed,UInt8.toBitVec_inj]

theorem dallasCrc8_own (data : List UInt8) : dallasCrc8 (data ++ [dallasCrc8 data data.length]) (data.length + 1) = 0 := by
  have length : data.length + 1 = (data ++ [dallasCrc8 data data.length]).length := by simp
  apply UInt8.toBitVec_inj.mp
  rw [length,dallasCrc8_feed]
  exact (checked_iff data _).mp rfl

theorem burst_fails {data errors : List UInt8} {crc error : UInt8} (aligned : data.length = errors.length)
    (valid : dallasCrc8 data data.length = crc) (burst : Burst 8 (transmitted (errors ++ [error]))) :
    dallasCrc8 (List.zipWith (· ^^^ ·) data errors) data.length ≠ crc ^^^ error := by
  intro accepted
  have length : (List.zipWith (· ^^^ ·) data errors).length = data.length := by simp [aligned]
  have whole : List.zipWith (· ^^^ ·) (data ++ [crc]) (errors ++ [error]) =
      List.zipWith (· ^^^ ·) data errors ++ [crc ^^^ error] := List.zipWith_append aligned
  have longer : (data ++ [crc]).length = (errors ++ [error]).length := by simp [aligned]
  have bitwise : (transmitted (data ++ [crc])).length = (transmitted (errors ++ [error])).length := by
    rw [length_transmitted,length_transmitted,longer]
  rw [← length,checked_iff,← whole,transmitted_xor longer] at accepted
  exact burst_audible generator_top bitwise ((checked_iff data crc).mp valid) burst accepted

theorem bits_readByte (slots : Nat → Bool) (first : Nat) :
    bits (oneWireReadByte slots first).toBitVec = (List.range' first 8).map slots := by
  have each : ∀ a b c d e f g h : Bool, bits ((List.range 8).foldl (fun value bit =>
      if [a,b,c,d,e,f,g,h].getD bit false then value ||| 1 <<< UInt8.ofNat bit else value) (0 : UInt8)).toBitVec =
        [a,b,c,d,e,f,g,h] := by decide +kernel
  exact each (slots first) (slots (first + 1)) (slots (first + 2)) (slots (first + 3)) (slots (first + 4))
    (slots (first + 5)) (slots (first + 6)) (slots (first + 7))

theorem transmitted_scratchpad (slots : Nat → Bool) : transmitted (readScratchpad slots) = (List.range 72).map slots := by
  have bytes : transmitted (readScratchpad slots) =
      ((List.range 9).flatMap fun index => (List.range' (8 * index) 8)).map slots := by
    rw [transmitted,readScratchpad,List.flatMap_map,List.map_flatMap]
    exact List.flatMap_congr fun index _ => bits_readByte slots (8 * index)
  rw [bytes]
  congr 1

theorem readTemperature_wrong {slots : Nat → Bool}
    (wrong : dallasCrc8 (readScratchpad slots) 8 ≠ (readScratchpad slots).getD 8 0) :
    readTemperature true slots = .error .invalidCrc := if_pos wrong

theorem readTemperature_accepts (slots : Nat → Bool) :
    (∃ raw, readTemperature true slots = .ok raw) ↔ feed generator 0 ((List.range 72).map slots) = 0 := by
  have parts : readScratchpad slots = (readScratchpad slots).take 8 ++ [(readScratchpad slots).getD 8 0] := by
    simp [readScratchpad,List.range_succ]
  have length : ((readScratchpad slots).take 8).length = 8 := by simp [readScratchpad]
  have data : dallasCrc8 (readScratchpad slots) 8 =
      dallasCrc8 ((readScratchpad slots).take 8) ((readScratchpad slots).take 8).length := by
    rw [dallasCrc8,dallasCrc8,List.take_length]
  have checked : dallasCrc8 (readScratchpad slots) 8 = (readScratchpad slots).getD 8 0 ↔
      feed generator 0 ((List.range 72).map slots) = 0 := by
    rw [data,checked_iff,← parts,transmitted_scratchpad]
  rw [← checked]
  constructor
  · rintro ⟨raw,read⟩
    by_contra wrong
    rw [readTemperature_wrong wrong] at read
    cases read
  · intro same
    exact ⟨_,if_neg (not_not_intro same)⟩

def Disturbance (error : Nat → Bool) : Prop :=
  ∃ start, (∀ slot, error slot = true → start ≤ slot ∧ slot < start + 8) ∧ ∃ slot < 72, error slot = true

theorem disturbance_rejected {slots error : Nat → Bool} (disturbance : Disturbance error)
    (accepted : ∃ raw, readTemperature true slots = .ok raw) :
    readTemperature true (fun slot => xor (slots slot) (error slot)) = .error .invalidCrc := by
  obtain ⟨start,window,hit⟩ := disturbance
  have together : (List.range 72).map (fun slot => xor (slots slot) (error slot)) =
      List.zipWith xor ((List.range 72).map slots) ((List.range 72).map error) := by
    rw [List.zipWith_map,List.zipWith_self]
  have refused : ¬ ∃ raw, readTemperature true (fun slot => xor (slots slot) (error slot)) = .ok raw := by
    rw [readTemperature_accepts,together]
    exact burst_audible generator_top (by simp) ((readTemperature_accepts slots).mp accepted) (burst_of_window window hit)
  exact readTemperature_wrong fun same => refused ⟨_,if_neg (not_not_intro same)⟩

theorem disturbance_invalid {slots error : Nat → Bool} (disturbance : Disturbance error)
    (accepted : ∃ raw, readTemperature true slots = .ok raw) (sensorIndex : Nat) (started : Bool) :
    temperatureSensorRead sensorIndex started true (fun slot => xor (slots slot) (error slot)) = ⟨false,0⟩ := by
  unfold temperatureSensorRead
  rw [disturbance_rejected disturbance accepted]
  split <;> rfl

-- Linear, silent on data with its own checksum, and never deceived by a burst.
theorem dallas_bursts :
    (∀ data errors : List UInt8, data.length = errors.length →
      dallasCrc8 (List.zipWith (· ^^^ ·) data errors) data.length =
        dallasCrc8 data data.length ^^^ dallasCrc8 errors errors.length) ∧
    (∀ data : List UInt8, dallasCrc8 (data ++ [dallasCrc8 data data.length]) (data.length + 1) = 0) ∧
    (∀ (data errors : List UInt8) (crc error : UInt8), data.length = errors.length → dallasCrc8 data data.length = crc →
      Burst 8 (transmitted (errors ++ [error])) →
        dallasCrc8 (List.zipWith (· ^^^ ·) data errors) data.length ≠ crc ^^^ error) ∧
    ∀ slots error : Nat → Bool, Disturbance error → (∃ raw, readTemperature true slots = .ok raw) →
      readTemperature true (fun slot => xor (slots slot) (error slot)) = .error .invalidCrc :=
  ⟨fun _ _ => dallasCrc8_xor,dallasCrc8_own,fun _ _ _ _ => burst_fails,fun _ _ => disturbance_rejected⟩

-- A probe after power-up, at 85 degrees, and a burst over the end of the data.
private def powerUp (slot : Nat) : Bool := (transmitted [0x50,0x05,0x4B,0x46,0x7F,0xFF,0x0C,0x10,0x1C]).getD slot false

private def spike (slot : Nat) : Bool := slot = 61 || slot = 64 || slot = 68

theorem dallas_bursts_spike :
    dallasCrc8 [0x50 ^^^ 0x01,0x05 ^^^ 0x80] 2 = dallasCrc8 [0x50,0x05] 2 ^^^ dallasCrc8 [0x01,0x80] 2 ∧
    dallasCrc8 [0x50 ^^^ 0x80] 1 ≠ dallasCrc8 [0x50] 1 ^^^ 0x01 ∧
    readTemperature true powerUp = .ok 0x0550 ∧
    readTemperature true (fun slot => xor (powerUp slot) (spike slot)) = .error .invalidCrc := by
  have read : readTemperature true powerUp = .ok 0x0550 := by decide +kernel
  refine ⟨dallas_bursts.1 [0x50,0x05] [0x01,0x80] rfl,?_,read,?_⟩
  · apply dallas_bursts.2.2.1 [0x50] [0x80] _ 0x01 rfl rfl
    exact ⟨7,[true,true],7,by decide,by decide,by decide⟩
  · apply dallas_bursts.2.2.2 powerUp spike _ ⟨_,read⟩
    refine ⟨61,fun slot set => ?_,61,by decide,by decide⟩
    simp only [spike,Bool.or_eq_true,decide_eq_true_eq] at set
    omega

end Thermometer.Firmware.RealSensors
