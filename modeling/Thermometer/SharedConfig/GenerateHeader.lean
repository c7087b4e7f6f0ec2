import Thermometer.SharedConfig.LoadAndValidate

-- protocol/generate_firmware_config.py: the C header of an accepted document.
namespace Thermometer.SharedConfig
open Json

-- `[A-Z0-9]`.
def macroCharacter (character : Char) : Bool := character.isUpper || character.isDigit

-- Every run of other characters becomes one underscore.
def underscored (insideRun : Bool) : List Char → List Char
  | [] => []
  | character :: rest =>
    if macroCharacter character then character :: underscored false rest
    else if insideRun then underscored true rest
    else '_' :: underscored true rest

def stripUnderscores (characters : List Char) : List Char :=
  ((characters.dropWhile (· = '_')).reverse.dropWhile (· = '_')).reverse

def macroName (library : Library) (value : String) : String :=
  String.ofList (stripUnderscores (underscored false (library.upper value).toList))

-- What stands behind a name: `c_string(value)`, the value with the suffix U, or a text as it is.
inductive MacroValue where
  | quoted (value : Value)
  | unsigned (value : Value)
  | plain (text : String)

inductive Line where
  | text (text : String)
  | define (name : String) (value : MacroValue)

def Line.definition : Line → Option (String × MacroValue)
  | .text _ => none
  | .define name value => some (name,value)

def definitions (lines : List Line) : List (String × MacroValue) := lines.filterMap Line.definition

def unsignedNumber (number : Number) : MacroValue := .unsigned number.toValue

def unsignedInteger (value : Int) : MacroValue := .unsigned (.integer value)

def integerUnits (milliseconds : Value) (numerator denominator : Int) (name : String) : Checked Number := do
  let scaled ← (← milliseconds.number).mul (.integer numerator)
  let inexact := Error.valueErrorShowing s!"{name}=" milliseconds " ms cannot be represented exactly"
  match scaled with
  | .integer value => if value % denominator = 0 then .ok (.integer (value / denominator)) else .error inexact
  | .double value =>
    match scaled.exact with
    | .finite exact =>
      if (exact / denominator).isInt then .ok (.double (value / Float.ofInt denominator)) else .error inexact
    | _ => .error inexact

-- `int(value)`.
def truncated (value : Number) : Checked Int :=
  match value,value.exact with
  | .integer value,_ => .ok value
  | _,.finite exact => .ok (exact.num.tdiv exact.den)
  | _,.infinite _ => .error .overflowError
  | _,.nan => .error (.valueError "cannot convert float NaN to integer")

def isPasskey (pairingPasskey : String) : Bool :=
  pairingPasskey.length = 6 && pairingPasskey.toList.all fun character => character.isDigit

def passkeyNumber (pairingPasskey : String) : Nat :=
  pairingPasskey.toList.foldl (fun number character => 10 * number + (character.toNat - 48)) 0

abbrev Macros := List (String × Checked MacroValue)

-- A group of definitions: the first value that cannot be formed ends the generation.
def defineAll (macros : Macros) : Checked (List Line) :=
  macros.mapM fun entry => Line.define entry.1 <$> entry.2

def bluetoothMacros (bluetooth : Value) (pairingPasskey : String) : Macros :=
  [("THERMOMETER_BLE_DEVICE_NAME_PREFIX",.quoted <$> bluetooth.subscript "device_name_prefix"),
    ("THERMOMETER_BLE_SERVICE_UUID",.quoted <$> bluetooth.subscript "service_uuid"),
    ("THERMOMETER_BLE_REQUEST_UUID",.quoted <$> bluetooth.subscript "request_characteristic_uuid"),
    ("THERMOMETER_BLE_RESPONSE_UUID",.quoted <$> bluetooth.subscript "response_characteristic_uuid"),
    ("THERMOMETER_BLE_PAIRING_PASSKEY",.ok (unsignedInteger (passkeyNumber pairingPasskey))),
    ("THERMOMETER_BLE_PAIRING_PASSKEY_TEXT",.ok (.quoted (.text pairingPasskey))),
    ("THERMOMETER_BLE_PREFERRED_ATT_MTU",.unsigned <$> bluetooth.subscript "preferred_att_mtu")]

def intervalMacro (interval : Value) (key : String) (numerator denominator : Int) (name : String) :
    Checked MacroValue := do
  unsignedNumber <$> integerUnits (← interval.subscript key) numerator denominator name

def intervalMacros (advertising connection : Value) : Macros :=
  [("THERMOMETER_BLE_ADV_INTERVAL_MIN_UNITS",intervalMacro advertising "minimum" 8 5 "advertising minimum"),
    ("THERMOMETER_BLE_ADV_INTERVAL_MAX_UNITS",intervalMacro advertising "maximum" 8 5 "advertising maximum"),
    ("THERMOMETER_BLE_CONN_INTERVAL_MIN_UNITS",
      intervalMacro connection "minimum_interval_ms" 4 5 "connection minimum"),
    ("THERMOMETER_BLE_CONN_INTERVAL_MAX_UNITS",
      intervalMacro connection "maximum_interval_ms" 4 5 "connection maximum"),
    ("THERMOMETER_BLE_PERIPHERAL_LATENCY",.unsigned <$> connection.subscript "peripheral_latency"),
    ("THERMOMETER_BLE_SUPERVISION_TIMEOUT_UNITS",
      intervalMacro connection "supervision_timeout_ms" 1 10 "supervision timeout")]

def deviceMacros (device : Value) : Macros :=
  [("THERMOMETER_SENSOR_COUNT",.unsigned <$> device.subscript "sensor_count"),
    ("THERMOMETER_HISTORY_CAPACITY",.unsigned <$> device.subscript "history_capacity_records"),
    ("THERMOMETER_SAMPLE_PERIOD_MS",.unsigned <$> device.subscript "sample_period_ms"),
    ("THERMOMETER_SAMPLING_TASK_STACK_BYTES",.unsigned <$> device.subscript "sampling_task_stack_bytes"),
    ("THERMOMETER_SAMPLING_TASK_PRIORITY",.unsigned <$> device.subscript "sampling_task_priority"),
    ("THERMOMETER_FAILED_READ_LIMIT",.unsigned <$> device.subscript "failed_reads_before_disconnected"),
    ("THERMOMETER_SUCCESSFUL_READ_LIMIT",.unsigned <$> device.subscript "successful_reads_before_reconnected"),
    ("THERMOMETER_DEFAULT_BACKLIGHT_PERCENT",.unsigned <$> device.subscript "default_backlight_percent")]

def simulationMacros (simulation : Value) : Macros :=
  [("THERMOMETER_FAKE_DISCONNECTS",
      (fun flag => unsignedInteger (if flag.truthy then 1 else 0)) <$> simulation.subscript "simulate_disconnects"),
    ("THERMOMETER_FAKE_DISCONNECT_CYCLE_SAMPLES",.unsigned <$> simulation.subscript "disconnect_cycle_samples")]

-- `int(seconds * 1000)`.
def millisecondsMacro (authentication : Value) (key : String) : Checked MacroValue := do
  let seconds ← (← authentication.subscript key).number
  unsignedInteger <$> truncated (← seconds.mul (.integer 1000))

def authenticationMacros (authentication : Value) : Macros :=
  [("THERMOMETER_AUTH_DOMAIN",.quoted <$> authentication.subscript "domain_separator"),
    ("THERMOMETER_AUTH_NONCE_SIZE",.unsigned <$> authentication.subscript "nonce_size_bytes"),
    ("THERMOMETER_AUTH_PROOF_SIZE",.unsigned <$> authentication.subscript "proof_size_bytes"),
    ("THERMOMETER_AUTH_CHALLENGE_TIMEOUT_MS",millisecondsMacro authentication "challenge_timeout_seconds"),
    ("THERMOMETER_AUTH_MAX_FAILURES",.unsigned <$> authentication.subscript "maximum_failures"),
    ("THERMOMETER_AUTH_LOCKOUT_MS",millisecondsMacro authentication "lockout_seconds")]

def protocolMacros (protocol : Value) : Macros :=
  [("THERMOMETER_PROTOCOL_VERSION",.unsigned <$> protocol.subscript "version"),
    ("PROTOCOL_RESPONSE_FLAG",.unsigned <$> protocol.subscript "response_flag"),
    ("PROTOCOL_MAX_HISTORY_RECORDS",.unsigned <$> protocol.subscript "max_history_records_per_chunk"),
    ("PROTOCOL_MAX_COMPACT_HISTORY_RECORDS",
      .unsigned <$> protocol.subscript "max_compact_history_records_per_chunk")]

def sensorLines (library : Library) (sensors : List Value) : Checked (List Line) := do
  let groups ← sensors.zipIdx.mapM fun entry => do
    let values ← entry.1.dictionary
    .ok (values.map fun known => Line.define
      ("THERMOMETER_FAKE_SENSOR_" ++ toString (entry.2 + 1) ++ "_" ++ macroName library known.1)
      (.plain (library.str known.2)))
  .ok groups.flatten

def tablePrefixes : List (String × String) :=
  [("opcodes","PROTOCOL_OPCODE_VALUE_"),("status_codes","PROTOCOL_STATUS_VALUE_"),
    ("visible_states","PROTOCOL_VISIBLE_STATE_VALUE_"),("data_statuses","PROTOCOL_DATA_STATUS_VALUE_")]

def tableLines (library : Library) (protocol : Value) : Checked (List Line) := do
  let groups ← tablePrefixes.mapM fun table => do
    let values ← (← protocol.subscript table.1).dictionary
    .ok (values.map fun known => Line.define (table.2 ++ macroName library known.1) (.unsigned known.2))
  .ok groups.flatten

def sizeMacro (library : Library) (layoutName : String) : String :=
  "PROTOCOL_" ++ macroName library layoutName ++ "_SIZE"

def offsetMacro (library : Library) (layoutName fieldName : String) : String :=
  "PROTOCOL_" ++ macroName library layoutName ++ "_" ++ macroName library fieldName ++ "_OFFSET"

def layoutLines (library : Library) (layouts : Value) : Checked (List Line) := do
  let groups ← (← layouts.dictionary).mapM fun layout => do
    let (size,offsets) ← layoutDetails layout.2
    .ok (.text "" :: .define (sizeMacro library layout.1) (unsignedInteger size) ::
      offsets.map fun field => .define (offsetMacro library layout.1 field.1) (unsignedInteger field.2))
  .ok groups.flatten

def maximumPacketSize (protocol layouts : Value) : Checked Number := do
  let headerSize ← layoutSize layouts "header"
  let prefixSize ← layoutSize layouts "history_chunk_prefix"
  let recordSize ← layoutSize layouts "history_record"
  let compactRecordSize ← layoutSize layouts "compact_history_record"
  let records ← (← protocol.subscript "max_history_records_per_chunk").number
  let compactRecords ← (← protocol.subscript "max_compact_history_records_per_chunk").number
  .ok ((← packetSize headerSize prefixSize records recordSize).max
    (← packetSize headerSize prefixSize compactRecords compactRecordSize))

def generateHeader (library : Library) (config : Value) (sourceName pairingPasskey : String) :
    Checked (List Line) := do
  require (isPasskey pairingPasskey) (.valueError "pairing passkey must contain exactly six digits")
  let bluetooth ← config.subscript "bluetooth"
  let device ← config.subscript "device"
  let simulation ← config.subscript "simulation"
  let authentication ← config.subscript "authentication"
  let protocol ← config.subscript "protocol"
  let layouts ← protocol.subscript "layouts"
  let bluetoothLines ← defineAll (bluetoothMacros bluetooth pairingPasskey)
  let advertising ← bluetooth.subscript "advertising_interval_ms"
  let connection ← bluetooth.subscript "preferred_connection"
  let intervalLines ← defineAll (intervalMacros advertising connection)
  let deviceLines ← defineAll (deviceMacros device)
  let simulationLines ← defineAll (simulationMacros simulation)
  let sensors ← sensorLines library (← (← simulation.subscript "sensors").items)
  let authenticationLines ← defineAll (authenticationMacros authentication)
  let protocolLines ← defineAll (protocolMacros protocol)
  let tables ← tableLines library protocol
  let layoutGroups ← layoutLines library layouts
  let maximum ← maximumPacketSize protocol layouts
  .ok ([.text "#pragma once",.text "",
      .text s!"/* Generated from {sourceName}. Do not edit this file directly. */",.text ""] ++
    bluetoothLines ++ intervalLines ++ [.text ""] ++ deviceLines ++ [.text ""] ++ simulationLines ++ sensors ++
    [.text ""] ++ authenticationLines ++ [.text ""] ++ protocolLines ++ tables ++ layoutGroups ++
    [.text "",.define "PROTOCOL_MAX_PACKET_SIZE" (unsignedNumber maximum),.text ""])

def layoutFieldsOf (layout : Value) : Nat × List (String × Nat) :=
  match layoutDetails layout with
  | .ok details => details
  | .error _ => (0,[])

def sensorMacro (library : Library) (index : Nat) (key : String) : String :=
  "THERMOMETER_FAKE_SENSOR_" ++ toString (index + 1) ++ "_" ++ macroName library key

def sensorDefinitions (library : Library) (sensors : List Value) : List (String × MacroValue) :=
  sensors.zipIdx.flatMap fun entry => entry.1.entries.map fun known =>
    (sensorMacro library entry.2 known.1,.plain (library.str known.2))

def tableDefinitions (library : Library) (protocol : Value) : List (String × MacroValue) :=
  tablePrefixes.flatMap fun table => (protocol.follow [table.1]).entries.map fun known =>
    (table.2 ++ macroName library known.1,.unsigned known.2)

def layoutDefinitions (library : Library) (layouts : Value) : List (String × MacroValue) :=
  layouts.entries.flatMap fun layout =>
    (sizeMacro library layout.1,unsignedInteger (layoutFieldsOf layout.2).1) ::
      (layoutFieldsOf layout.2).2.map fun field => (offsetMacro library layout.1 field.1,unsignedInteger field.2)

def fixedNames : List String :=
  (bluetoothMacros .null "" ++ intervalMacros .null .null ++ deviceMacros .null ++ simulationMacros .null ++
    authenticationMacros .null ++ protocolMacros .null).map Prod.fst

section Inversion

variable {library : Library} {config layouts protocol : Value} {lines : List Line} {passkey : String}

theorem filterMap_define {α : Type} (list : List α) (name : α → String) (value : α → MacroValue) :
    (list.map fun entry => Line.define (name entry) (value entry)).filterMap Line.definition =
      list.map fun entry => (name entry,value entry) := by
  induction list with
  | nil => rfl
  | cons first rest ih => simp [Line.definition,ih]

theorem defineAll_names {macros : Macros} (done : defineAll macros = .ok lines) :
    (definitions lines).map Prod.fst = macros.map Prod.fst := by
  unfold defineAll at done
  induction macros generalizing lines with
  | nil =>
    cases done
    rfl
  | cons first rest ih =>
    rw [List.mapM_cons] at done
    obtain ⟨line,made,done⟩ := bind_ok done
    obtain ⟨others,later,same⟩ := bind_ok done
    obtain ⟨value,_,defined⟩ := map_ok made
    cases same
    rw [← defined]
    simpa [definitions,Line.definition] using ih later

theorem defineAll_mem {macros : Macros} (done : defineAll macros = .ok lines) :
    ∀ entry ∈ macros, ∃ value, entry.2 = .ok value ∧ (entry.1,value) ∈ definitions lines := by
  unfold defineAll at done
  induction macros generalizing lines with
  | nil => exact nofun
  | cons first rest ih =>
    rw [List.mapM_cons] at done
    obtain ⟨line,made,done⟩ := bind_ok done
    obtain ⟨others,later,same⟩ := bind_ok done
    obtain ⟨value,known,rfl⟩ := map_ok made
    cases same
    intro entry member
    rcases List.mem_cons.mp member with rfl | old
    · exact ⟨value,known,List.mem_cons_self⟩
    · obtain ⟨value,known,listed⟩ := ih later entry old
      exact ⟨value,known,List.mem_cons_of_mem _ listed⟩

theorem sensorLines_definitions {sensors : List Value} (done : sensorLines library sensors = .ok lines) :
    definitions lines = sensorDefinitions library sensors := by
  obtain ⟨groups,grouped,same⟩ := bind_ok done
  cases same
  apply mapM_flatten _ grouped
  intro entry _ group made
  obtain ⟨values,known,same⟩ := bind_ok made
  cases same
  rw [Value.dictionary_ok known]
  apply filterMap_define

theorem tableLines_definitions (done : tableLines library protocol = .ok lines) :
    definitions lines = tableDefinitions library protocol := by
  obtain ⟨groups,grouped,same⟩ := bind_ok done
  cases same
  apply mapM_flatten _ grouped
  intro table _ group made
  obtain ⟨found,present,made⟩ := bind_ok made
  obtain ⟨values,known,same⟩ := bind_ok made
  cases same
  rw [Value.dictionary_ok known,Value.follow_of_field (Value.subscript_ok present)]
  apply filterMap_define

theorem layoutLines_definitions (done : layoutLines library layouts = .ok lines) :
    definitions lines = layoutDefinitions library layouts ∧
      ∀ layout ∈ layouts.entries, ∃ details, layoutDetails layout.2 = .ok details := by
  obtain ⟨entries,known,done⟩ := bind_ok done
  obtain ⟨groups,grouped,same⟩ := bind_ok done
  cases same
  rw [Value.dictionary_ok known] at grouped
  refine ⟨?_,?_⟩
  · apply mapM_flatten _ grouped
    intro layout _ group made
    obtain ⟨⟨size,offsets⟩,detailed,same⟩ := bind_ok made
    cases same
    have viewed : layoutFieldsOf layout.2 = (size,offsets) := by rw [layoutFieldsOf,detailed]
    rw [viewed]
    change (_,_) :: (offsets.map _).filterMap Line.definition = _
    rw [filterMap_define]
  · intro layout member
    obtain ⟨group,made⟩ := mapM_mem grouped layout member
    obtain ⟨details,detailed,_⟩ := bind_ok made
    exact ⟨details,detailed⟩

theorem generateHeader_definitions (generated : generateHeader library config sourceName passkey = .ok lines) :
    ∃ fixed sensors maximum, (config.follow ["simulation","sensors"]).items = .ok sensors ∧
      (fixed : List (String × MacroValue)).map Prod.fst = fixedNames ∧
      (∀ entry ∈ deviceMacros (config.follow ["device"]) ++ protocolMacros (config.follow ["protocol"]) ++
          simulationMacros (config.follow ["simulation"]),
        ∃ value, entry.2 = .ok value ∧ (entry.1,value) ∈ fixed) ∧
      maximumPacketSize (config.follow ["protocol"]) (config.follow ["protocol","layouts"]) = .ok maximum ∧
      (∀ layout ∈ (config.follow ["protocol","layouts"]).entries, ∃ details, layoutDetails layout.2 = .ok details) ∧
      ∀ definition, definition ∈ definitions lines ↔ definition ∈ fixed ∨
        definition ∈ sensorDefinitions library sensors ∨
        definition ∈ tableDefinitions library (config.follow ["protocol"]) ∨
        definition ∈ layoutDefinitions library (config.follow ["protocol","layouts"]) ∨
        definition = ("PROTOCOL_MAX_PACKET_SIZE",unsignedNumber maximum) := by
  obtain ⟨_,_,generated⟩ := bind_ok generated
  obtain ⟨bluetooth,_,generated⟩ := bind_ok generated
  obtain ⟨device,atDevice,generated⟩ := bind_ok generated
  obtain ⟨simulation,atSimulation,generated⟩ := bind_ok generated
  obtain ⟨authentication,_,generated⟩ := bind_ok generated
  obtain ⟨protocol,atProtocol,generated⟩ := bind_ok generated
  obtain ⟨layouts,atLayouts,generated⟩ := bind_ok generated
  obtain ⟨bluetoothLines,bluetoothMade,generated⟩ := bind_ok generated
  obtain ⟨advertising,_,generated⟩ := bind_ok generated
  obtain ⟨connection,_,generated⟩ := bind_ok generated
  obtain ⟨intervalLines,intervalMade,generated⟩ := bind_ok generated
  obtain ⟨deviceLines,deviceMade,generated⟩ := bind_ok generated
  obtain ⟨simulationLines,simulationMade,generated⟩ := bind_ok generated
  obtain ⟨sensorsValue,atSensors,generated⟩ := bind_ok generated
  obtain ⟨sensors,listed,generated⟩ := bind_ok generated
  obtain ⟨sensorGroup,sensorsMade,generated⟩ := bind_ok generated
  obtain ⟨authenticationLines,authenticationMade,generated⟩ := bind_ok generated
  obtain ⟨protocolLines,protocolMade,generated⟩ := bind_ok generated
  obtain ⟨tableGroup,tablesMade,generated⟩ := bind_ok generated
  obtain ⟨layoutGroup,layoutsMade,generated⟩ := bind_ok generated
  obtain ⟨maximum,maximumMade,generated⟩ := bind_ok generated
  have made := Except.ok.inj generated
  have deviceAt : config.follow ["device"] = device := Value.follow_of_field (Value.subscript_ok atDevice)
  have simulationAt : config.follow ["simulation"] = simulation :=
    Value.follow_of_field (Value.subscript_ok atSimulation)
  have protocolAt : config.follow ["protocol"] = protocol := Value.follow_of_field (Value.subscript_ok atProtocol)
  have layoutsAt : config.follow ["protocol","layouts"] = layouts := by
    rw [Value.follow_of_field (Value.subscript_ok atProtocol),Value.follow_of_field (Value.subscript_ok atLayouts)]
    rfl
  have sensorsAt : config.follow ["simulation","sensors"] = sensorsValue := by
    rw [Value.follow_of_field (Value.subscript_ok atSimulation),Value.follow_of_field (Value.subscript_ok atSensors)]
    rfl
  obtain ⟨layoutsDefined,detailed⟩ := layoutLines_definitions layoutsMade
  rw [deviceAt,simulationAt,protocolAt,layoutsAt,sensorsAt]
  refine ⟨definitions bluetoothLines ++ definitions intervalLines ++ definitions deviceLines ++
    definitions simulationLines ++ definitions authenticationLines ++ definitions protocolLines,sensors,maximum,listed,?_,
    ?_,maximumMade,detailed,?_⟩
  · unfold fixedNames
    simp only [List.map_append,defineAll_names bluetoothMade,defineAll_names intervalMade,defineAll_names deviceMade,
      defineAll_names simulationMade,defineAll_names authenticationMade,defineAll_names protocolMade]
    simp only [bluetoothMacros,intervalMacros,deviceMacros,simulationMacros,authenticationMacros,protocolMacros,
      List.map_cons,List.map_nil]
  · intro entry member
    simp only [List.mem_append] at member ⊢
    rcases member with (member | member) | member
    · obtain ⟨value,known,listed⟩ := defineAll_mem deviceMade entry member
      exact ⟨value,known,.inl (.inl (.inl (.inr listed)))⟩
    · obtain ⟨value,known,listed⟩ := defineAll_mem protocolMade entry member
      exact ⟨value,known,.inr listed⟩
    · obtain ⟨value,known,listed⟩ := defineAll_mem simulationMade entry member
      exact ⟨value,known,.inl (.inl (.inr listed))⟩
  · intro definition
    rw [← sensorLines_definitions sensorsMade,← tableLines_definitions tablesMade,← layoutsDefined,← made]
    simp only [definitions,List.filterMap_append,List.filterMap_cons,List.filterMap_nil,Line.definition,List.mem_append,
      List.mem_singleton,List.not_mem_nil]
    grind

end Inversion

end Thermometer.SharedConfig
