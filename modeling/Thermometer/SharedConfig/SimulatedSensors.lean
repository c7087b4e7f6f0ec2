import Thermometer.Lib.Numerals
import Thermometer.SharedConfig.BufferSafety
import Thermometer.Firmware.FakeSensorNumbers

-- The simulated sensors of the firmware that is compiled with a generated header.
namespace Thermometer.SharedConfig
open Json Texts
open Firmware.FakeSensors (Simulation FakeSensorProfile Steady Aligned Silent Unbroken Extremes AcrossWrap)

inductive ProfileField where
  | centerCentiC | amplitudeCentiC | wavePeriodSamples | waveOffsetSamples | disconnectStartSample | disconnectEndSample

def ProfileField.suffix : ProfileField → String
  | .centerCentiC => "CENTER_CENTI_C"
  | .amplitudeCentiC => "AMPLITUDE_CENTI_C"
  | .wavePeriodSamples => "WAVE_PERIOD_SAMPLES"
  | .waveOffsetSamples => "WAVE_OFFSET_SAMPLES"
  | .disconnectStartSample => "DISCONNECT_START_SAMPLE"
  | .disconnectEndSample => "DISCONNECT_END_SAMPLE"

def ProfileField.limits : ProfileField → Int × Int
  | .centerCentiC | .amplitudeCentiC => (-2 ^ 15,2 ^ 15 - 1)
  | _ => (0,2 ^ 32 - 1)

def profileMacro (index : Nat) (field : ProfileField) : String :=
  "THERMOMETER_FAKE_SENSOR_" ++ toString (index + 1) ++ "_" ++ field.suffix

structure SimulationConstants where
  disconnects : Bool
  disconnectCycleSamples : Nat
  profile : Fin Wire.sensorCount → ProfileField → Int

namespace SimulationConstants

variable (constants : SimulationConstants)

-- SENSOR_PROFILES, every constant narrowed to the type of its field.
def simulation : Simulation where
  disconnects := constants.disconnects
  disconnectCycleSamples := constants.disconnectCycleSamples
  profiles index :=
    { centerCentiC := Int16.ofInt (constants.profile index .centerCentiC)
      amplitudeCentiC := Int16.ofInt (constants.profile index .amplitudeCentiC)
      wavePeriodSamples := UInt32.ofInt (constants.profile index .wavePeriodSamples)
      waveOffsetSamples := UInt32.ofInt (constants.profile index .waveOffsetSamples)
      disconnectStartSample := UInt32.ofInt (constants.profile index .disconnectStartSample)
      disconnectEndSample := UInt32.ofInt (constants.profile index .disconnectEndSample) }

def Fits : Prop :=
  ∀ index field, field.limits.1 ≤ constants.profile index field ∧ constants.profile index field ≤ field.limits.2

structure Sound : Prop where
  narrowed : constants.Fits
  sensors : Firmware.FakeSensors.Sound constants.simulation

structure Checked : Prop where
  narrowed : constants.Fits
  sensors : Firmware.FakeSensors.Checked constants.simulation

theorem Fits.profile {constants : SimulationConstants} (fits : constants.Fits) (index : Fin Wire.sensorCount) :
    (constants.simulation.profiles index).centerCentiC.toInt = constants.profile index .centerCentiC ∧
    (constants.simulation.profiles index).amplitudeCentiC.toInt = constants.profile index .amplitudeCentiC ∧
    (constants.simulation.profiles index).wavePeriodSamples.toNat = constants.profile index .wavePeriodSamples := by
  have center := fits index .centerCentiC
  have amplitude := fits index .amplitudeCentiC
  have period := fits index .wavePeriodSamples
  simp only [ProfileField.limits] at center amplitude period
  refine ⟨Int16.toInt_ofInt_of_le (by omega) (by omega),Int16.toInt_ofInt_of_le (by omega) (by omega),?_⟩
  simp only [simulation,UInt32.ofInt,UInt32.toNat_ofNat']
  omega

end SimulationConstants

def Defines (lines : List Line) (name : String) (value : MacroValue) : Prop :=
  (name,value) ∈ definitions lines ∧ ∀ other, (name,other) ∈ definitions lines → other = value

-- `constant` is what the compiler makes of the text of a constant, before it is narrowed.
structure CompiledSimulation (library : Library) (constant : String → Option Int) (lines : List Line)
    (constants : SimulationConstants) : Prop where
  disconnects : Defines lines "THERMOMETER_FAKE_DISCONNECTS" (unsignedInteger (if constants.disconnects then 1 else 0))
  cycle : ∃ value, Defines lines "THERMOMETER_FAKE_DISCONNECT_CYCLE_SAMPLES" (.unsigned value) ∧
    constant (library.str value ++ "U") = some (constants.disconnectCycleSamples : Int)
  profile : ∀ (index : Fin Wire.sensorCount) field, ∃ text, Defines lines (profileMacro index field) (.plain text) ∧
    constant text = some (constants.profile index field)

section Document

variable (library : Library) (constant : String → Option Int) (config : Value)

def sensorText (index : Nat) (field : ProfileField) : String :=
  match (sensorsOf config)[index]? with
  | some sensor =>
    match sensor.entries.find? fun known => macroName library known.1 = field.suffix with
    | some known => library.str known.2
    | none => ""
  | none => ""

def documentConstants : SimulationConstants where
  disconnects := (config.follow ["simulation","simulate_disconnects"]).truthy
  disconnectCycleSamples :=
    ((constant (library.str (config.follow ["simulation","disconnect_cycle_samples"]) ++ "U")).getD 0).toNat
  profile index field := (constant (sensorText library config index field)).getD 0

end Document

section Compiled

variable {library : Library} {constant : String → Option Int} {config result : Value} {lines : List Line}
  {constants : SimulationConstants} {sourceName passkey : String}

theorem profileMacro_begins (index : Nat) (field : ProfileField) :
    begins ("THERMOMETER_FAKE_SENSOR_" ++ toString (index + 1) ++ "_") (profileMacro index field) := begins_append _ _

theorem sensor_defined (generated : generateHeader library config sourceName passkey = .ok lines) {name : String}
    {value : MacroValue} (named : begins "THERMOMETER_FAKE_SENSOR_" name) :
    (name,value) ∈ definitions lines ↔ (name,value) ∈ sensorDefinitions library (sensorsOf config) := by
  obtain ⟨fixed,sensors,maximum,items,names,_,_,_,defined⟩ := generateHeader_definitions generated
  have same : sensorsOf config = sensors := by rw [sensorsOf,items]
  have notProtocol := not_both_begin pieces_apart.1 named
  rw [same]
  refine ⟨fun listed => ?_,fun sensor => (defined _).mpr (.inr (.inl sensor))⟩
  rcases (defined _).mp listed with always | sensor | table | layout | packet
  · have apart := (fixed_apart name (names ▸ List.mem_map_of_mem (f := Prod.fst) always)).1
    exact absurd named (by simp [apart])
  · exact sensor
  · exact absurd (table_begins table).1 notProtocol
  · exact absurd (layout_shape layout).1 notProtocol
  · cases packet
    exact absurd packet_begins notProtocol

theorem compiled_text (accepted : loadAndValidate library config = .ok result)
    (generated : generateHeader library config sourceName passkey = .ok lines) {index : Fin Wire.sensorCount}
    {field : ProfileField} {text : String} (defines : Defines lines (profileMacro index field) (.plain text)) :
    sensorText library config index field = text := by
  have start : begins "THERMOMETER_FAKE_SENSOR_" (profileMacro index field) := by
    unfold profileMacro
    rw [String.append_assoc,String.append_assoc]
    exact begins_append _ _
  obtain ⟨place,sensor,atPlace,known,inSensor,named,_⟩ :=
    mem_sensorDefinitions.mp ((sensor_defined generated start).mp defines.1)
  obtain ⟨sensors,items,two⟩ := accepted_sensors accepted
  have same : sensorsOf config = sensors := by rw [sensorsOf,items]
  have below : place < 2 := two ▸ same ▸ (List.getElem?_eq_some_iff.mp atPlace).1
  have one : place = index := sensor_index below index.isLt (begins_append _ _) (named ▸ profileMacro_begins index field)
  subst one
  have stands : macroName library known.1 = field.suffix := String.append_right_inj _ |>.mp named
  have present : (sensor.entries.find? fun known => macroName library known.1 = field.suffix).isSome :=
    List.find?_isSome.mpr ⟨known,inSensor,by simpa using stands⟩
  obtain ⟨first,found⟩ := Option.isSome_iff_exists.mp present
  have firstNamed : sensorMacro library index first.1 = profileMacro index field :=
    congrArg (("THERMOMETER_FAKE_SENSOR_" ++ toString (index.val + 1) ++ "_") ++ ·) (by simpa using List.find?_some found)
  have member : (profileMacro index field,.plain (library.str first.2)) ∈ definitions lines :=
    (sensor_defined generated start).mpr
      (mem_sensorDefinitions.mpr ⟨index,sensor,atPlace,first,List.mem_of_find?_eq_some found,firstNamed,rfl⟩)
  unfold sensorText
  rw [atPlace]
  dsimp only
  rw [found]
  exact MacroValue.plain.inj (defines.2 _ member)

theorem compiled_constants (accepted : loadAndValidate library config = .ok result)
    (generated : generateHeader library config sourceName passkey = .ok lines)
    (compiled : CompiledSimulation library constant lines constants) :
    documentConstants library constant config = constants := by
  obtain ⟨fixed,_,_,_,_,values,_,_,defined⟩ := generateHeader_definitions generated
  have given (entry : String × Checked MacroValue) (member : entry ∈ simulationMacros (config.follow ["simulation"])) :
      ∃ value, entry.2 = .ok value ∧ (entry.1,value) ∈ definitions lines := by
    obtain ⟨value,known,listed⟩ := values entry (List.mem_append_right _ member)
    exact ⟨value,known,(defined _).mpr (.inl listed)⟩
  have disconnects : (config.follow ["simulation","simulate_disconnects"]).truthy = constants.disconnects := by
    obtain ⟨_,made,listed⟩ := given ("THERMOMETER_FAKE_DISCONNECTS",
      (fun flag => unsignedInteger (if flag.truthy then 1 else 0)) <$>
        (config.follow ["simulation"]).subscript "simulate_disconnects") (by simp [simulationMacros])
    obtain ⟨flag,read,rfl⟩ := map_ok made
    have at' : config.follow ["simulation","simulate_disconnects"] = flag :=
      Value.follow_of_field (Value.subscript_ok read)
    have same := Value.integer.inj (MacroValue.unsigned.inj (compiled.disconnects.2 _ listed))
    rw [at']
    revert same
    cases flag.truthy <;> cases constants.disconnects <;> decide
  have cycle : ((constant (library.str (config.follow ["simulation","disconnect_cycle_samples"]) ++ "U")).getD 0).toNat =
      constants.disconnectCycleSamples := by
    obtain ⟨_,made,listed⟩ := given ("THERMOMETER_FAKE_DISCONNECT_CYCLE_SAMPLES",
      .unsigned <$> (config.follow ["simulation"]).subscript "disconnect_cycle_samples") (by simp [simulationMacros])
    obtain ⟨number,read,rfl⟩ := map_ok made
    obtain ⟨value,defines,meaning⟩ := compiled.cycle
    have at' : config.follow ["simulation","disconnect_cycle_samples"] = number :=
      Value.follow_of_field (Value.subscript_ok read)
    rw [at',MacroValue.unsigned.inj (defines.2 _ listed),meaning]
    simp
  have profile : (fun (index : Fin Wire.sensorCount) field =>
      (constant (sensorText library config index field)).getD 0) = constants.profile := by
    funext index field
    obtain ⟨text,defines,meaning⟩ := compiled.profile index field
    rw [compiled_text accepted generated defines,meaning,Option.getD_some]
  unfold documentConstants
  rw [disconnects,cycle,profile]

-- The simulated sensors of an accepted document keep their promise if its numbers pass these checks, and only then where
-- each sensor is connected always or never. One that is connected at times may miss the samples that would show a flaw.
theorem simulated_sensors_checked (accepted : loadAndValidate library config = .ok result)
    (generated : generateHeader library config sourceName passkey = .ok lines)
    (compiled : CompiledSimulation library constant lines constants) :
    let numbers := documentConstants library constant config
    (numbers.Checked → constants.Sound) ∧
    (constants.Sound → numbers.Fits ∧ (numbers.disconnects = true → numbers.disconnectCycleSamples ≠ 0) ∧
      ∀ index, Extremes numbers.simulation (numbers.simulation.profiles index) →
        Steady (numbers.simulation.profiles index) ∧
        (AcrossWrap numbers.simulation (numbers.simulation.profiles index) → Aligned (numbers.simulation.profiles index))) ∧
    ((∀ index, Silent numbers.simulation (numbers.simulation.profiles index) ∨
        Unbroken numbers.simulation (numbers.simulation.profiles index)) → (constants.Sound ↔ numbers.Checked)) := by
  rw [compiled_constants accepted generated compiled]
  have enough (checked : constants.Checked) : constants.Sound :=
    ⟨checked.narrowed,Firmware.FakeSensors.sound_iff.mpr (Firmware.FakeSensors.regular_of_checked checked.sensors)⟩
  refine ⟨enough,?_,?_⟩
  · intro sound
    have regular := Firmware.FakeSensors.sound_iff.mp sound.sensors
    refine ⟨sound.narrowed,regular.cycle,?_⟩
    intro index read
    have steady := Firmware.FakeSensors.steady_of_regular regular read
    exact ⟨steady,Firmware.FakeSensors.aligned_of_regular regular steady⟩
  · intro whole
    refine ⟨?_,enough⟩
    intro sound
    exact ⟨sound.narrowed,Firmware.FakeSensors.checked_of_regular (Firmware.FakeSensors.sound_iff.mp sound.sensors) whole⟩

end Compiled

def simulatedDocument (period offset : Int) : Value :=
  .object [("bluetooth",bluetoothSection),("device",deviceSection),("simulation",.object
    [("simulate_disconnects",.boolean true),("disconnect_cycle_samples",.integer 60),("sensors",.array
      [.object [("center_centi_c",.integer 2000),("amplitude_centi_c",.integer 300),
          ("wave_period_samples",.integer period),("wave_offset_samples",.integer 0),
          ("disconnect_start_sample",.integer 55),("disconnect_end_sample",.integer 60)],
        .object [("center_centi_c",.integer 2250),("amplitude_centi_c",.integer 220),
          ("wave_period_samples",.integer 40),("wave_offset_samples",.integer offset),
          ("disconnect_start_sample",.integer 25),("disconnect_end_sample",.integer 30)]])]),
    ("client",clientSection),("service",serviceSection),("authentication",authenticationSection),
    ("protocol",protocolSection 32 72 [])]

example : simulatedDocument 30 9 = thermometerProtocol := rfl

def simulatedConstants (period offset : Int) : SimulationConstants where
  disconnects := true
  disconnectCycleSamples := 60
  profile
    | 0,.centerCentiC => 2000
    | 0,.amplitudeCentiC => 300
    | 0,.wavePeriodSamples => period
    | 0,.waveOffsetSamples => 0
    | 0,.disconnectStartSample => 55
    | 0,.disconnectEndSample => 60
    | 1,.centerCentiC => 2250
    | 1,.amplitudeCentiC => 220
    | 1,.wavePeriodSamples => 40
    | 1,.waveOffsetSamples => offset
    | 1,.disconnectStartSample => 25
    | 1,.disconnectEndSample => 30

def decimalConstant (text : String) : Option Int :=
  Numerals.integer (fun digit => if digit.isDigit then some (digit.toNat - 48) else none)
    (text.toList.takeWhile (· ≠ 'U'))

def definesPlain (lines : List Line) (name text : String) : Bool :=
  let found := (definitions lines).filter fun definition => definition.1 = name
  !found.isEmpty && found.all fun definition => match definition.2 with
    | .plain other => other = text
    | _ => false

theorem defines_of_plain {lines : List Line} {name text : String} (looked : definesPlain lines name text) :
    Defines lines name (.plain text) := by
  apply single_of_looked (fun other => match other with
    | .plain other => other = text
    | _ => false) _ looked
  intro other agreed
  cases other with
  | plain other => exact congrArg MacroValue.plain (of_decide_eq_true agreed)
  | _ => cases agreed

def profileFields : List ProfileField :=
  [.centerCentiC,.amplitudeCentiC,.wavePeriodSamples,.waveOffsetSamples,.disconnectStartSample,.disconnectEndSample]

theorem mem_profileFields (field : ProfileField) : field ∈ profileFields := by cases field <;> simp [profileFields]

def readsSimulation (lines : List Line) (constants : SimulationConstants) : Bool :=
  readsNumber lines "THERMOMETER_FAKE_DISCONNECTS" (if constants.disconnects then 1 else 0) &&
    readsNumber lines "THERMOMETER_FAKE_DISCONNECT_CYCLE_SAMPLES" constants.disconnectCycleSamples &&
    decimalConstant (toString (constants.disconnectCycleSamples : Int) ++ "U") ==
      some (constants.disconnectCycleSamples : Int) &&
    (List.finRange Wire.sensorCount).all fun index => profileFields.all fun field =>
      definesPlain lines (profileMacro index field) (toString (constants.profile index field)) &&
        decimalConstant (toString (constants.profile index field)) == some (constants.profile index field)

theorem compiled_of_reads_simulation {lines : List Line} {constants : SimulationConstants}
    (looked : readsSimulation lines constants) : CompiledSimulation asciiLibrary decimalConstant lines constants := by
  simp only [readsSimulation,Bool.and_eq_true,List.all_eq_true,beq_iff_eq] at looked
  obtain ⟨⟨⟨disconnects,cycle⟩,cycleMeaning⟩,profile⟩ := looked
  refine ⟨?_,⟨_,reads_of_number cycle,cycleMeaning⟩,?_⟩
  · have reads := reads_of_number disconnects
    cases flag : constants.disconnects <;> rw [flag] at reads <;> exact reads
  · intro index field
    obtain ⟨plain,meaning⟩ := profile index (List.mem_finRange index) field (mem_profileFields field)
    exact ⟨_,defines_of_plain plain,meaning⟩

def headerSimulates (period offset : Int) : Bool :=
  match generateHeader asciiLibrary (simulatedDocument period offset) "thermometer_protocol.json" "012345" with
  | .ok lines => readsSimulation lines (simulatedConstants period offset)
  | .error _ => false

theorem header_of_simulates (period offset : Int) (looked : headerSimulates period offset) :
    ∃ lines, generateHeader asciiLibrary (simulatedDocument period offset) "thermometer_protocol.json" "012345" = .ok lines ∧
      CompiledSimulation asciiLibrary decimalConstant lines (simulatedConstants period offset) := by
  unfold headerSimulates at looked
  split at looked
  · rename_i lines generated
    exact ⟨lines,generated,compiled_of_reads_simulation looked⟩
  · cases looked

theorem aligned_constants : (simulatedConstants 30 0).Checked := by
  refine ⟨?_,fun _ => by decide,?_⟩
  · intro index field
    cases field <;> revert index <;> decide
  · intro index
    refine .inr ⟨?_,.inl ?_⟩
    · match index with
      | 0 => exact ⟨by decide,by decide,.inl (by decide),by decide,by decide,by decide,by decide⟩
      | 1 => exact ⟨by decide,by decide,.inl (by decide),by decide,by decide,by decide,by decide⟩
    · revert index
      decide

theorem simulated_sensors_checked_aligned : (simulatedConstants 30 0).Sound := by
  obtain ⟨result,accepted⟩ := of_toBool (show (loadAndValidate asciiLibrary (simulatedDocument 30 0)).toBool = true by
    decide +kernel)
  obtain ⟨lines,generated,compiled⟩ := header_of_simulates 30 0 (by decide +kernel)
  apply (simulated_sensors_checked accepted generated compiled).1
  rw [compiled_constants accepted generated compiled]
  exact aligned_constants

-- A period of one sample: half of it is zero.
theorem simulated_sensors_divide : (loadAndValidate asciiLibrary (simulatedDocument 1 9)).toBool = true ∧
    ∃ lines, generateHeader asciiLibrary (simulatedDocument 1 9) "thermometer_protocol.json" "012345" = .ok lines ∧
      CompiledSimulation asciiLibrary decimalConstant lines (simulatedConstants 1 9) ∧
      Firmware.FakeSensors.temperatureSensorRead (simulatedConstants 1 9).simulation 0 0 = .error .divisionByZero ∧
      ¬ (simulatedConstants 1 9).Sound := by
  obtain ⟨lines,generated,compiled⟩ := header_of_simulates 1 9 (by decide +kernel)
  have divides : Firmware.FakeSensors.temperatureSensorRead (simulatedConstants 1 9).simulation 0 0 =
      .error .divisionByZero := by rfl
  refine ⟨by decide +kernel,lines,generated,compiled,divides,?_⟩
  intro sound
  obtain ⟨reading,read⟩ := sound.sensors.runs 0 0
  rw [divides] at read
  cases read

-- Even in the document of the repository, the wave of the second sensor jumps where the sum
-- of sample and offset wraps.
theorem thermometerProtocol_jumps :
    Firmware.FakeSensors.temperatureSensorRead (simulatedConstants 30 9).simulation 1 4294967251 = .ok ⟨true,2470⟩ ∧
      Firmware.FakeSensors.temperatureSensorRead (simulatedConstants 30 9).simulation 1 4294967291 = .ok ⟨true,2118⟩ ∧
      ¬ (simulatedConstants 30 9).Sound := by
  have before : Firmware.FakeSensors.temperatureSensorRead (simulatedConstants 30 9).simulation 1 4294967251 =
      .ok ⟨true,2470⟩ := by rfl
  have after : Firmware.FakeSensors.temperatureSensorRead (simulatedConstants 30 9).simulation 1 4294967291 =
      .ok ⟨true,2118⟩ := by rfl
  refine ⟨before,after,?_⟩
  intro sound
  have same := sound.sensors.periodic 1 4294967251 4294967291 2470 2118 (by decide) before after
  revert same
  decide

end Thermometer.SharedConfig
