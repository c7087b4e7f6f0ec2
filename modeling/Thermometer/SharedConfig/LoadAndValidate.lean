import Thermometer.Lib.Json

-- protocol/shared_config.py: the validator of the JSON that the firmware generator and the
-- Python client read.
namespace Thermometer.SharedConfig
open Json

def asciiUpper (text : String) : String := String.ofList (text.toList.map Char.toUpper)

def isAscii (text : String) : Bool := text.toList.all fun character => character.toNat < 128

-- What the checks and the generator take from Python's standard library: `str.upper` and
-- `str.lower`, whether `UUID(text)` is accepted, `Path(text).name` and `str(value)`.
structure Library where
  upper : String → String
  upperAscii : ∀ text, isAscii text → upper text = asciiUpper text
  lower : String → String
  isUuid : String → Bool
  fileName : String → String
  str : Value → String

def typeSizes : List (String × Nat) :=
  [("u8",1),("i8",1),("u16",2),("i16",2),("u32",4),("i32",4),("bytes6",6),("bytes16",16),("bytes32",32)]

-- A type that is not hashable cannot be looked up at all.
def typeSize (fieldType : Value) : Checked Nat := do
  let _ ← fieldType.key
  match typeSizes.find? fun known => fieldType.equals (.text known.1) with
  | some known => .ok known.2
  | none => .error (.valueErrorShowing "unsupported field type: " fieldType "")

def addField (details : Nat × List (String × Nat)) (field : Value) : Checked (Nat × List (String × Nat)) := do
  let name ← field.get "name"
  let fieldType ← field.get "type"
  match name with
  | .text name =>
    require (name ≠ "") (.valueError "layout fields require a non-empty name")
    let size ← typeSize fieldType
    require (name ∉ details.2.map Prod.fst) (.valueError s!"duplicate layout field: {name}")
    .ok (details.1 + size,details.2 ++ [(name,details.1)])
  | _ => .error (.valueError "layout fields require a non-empty name")

def layoutDetails (layout : Value) : Checked (Nat × List (String × Nat)) := do
  (← layout.items).foldlM addField (0,[])

def positive (part : Value) (sectionName : String) (names : List String) : Checked Unit :=
  names.forM fun name => do
    let value ← part.get name
    let error := Error.valueError s!"{sectionName}.{name} must be positive"
    match value with
    | .integer _ | .double _ => require (!(← value.number).le (.integer 0)) error
    | _ => .error error

-- `if not low <= value <= high`.
def between (low high : Int) (value : Value) (message : String) : Checked Unit := do
  require (← Number.ordered (.integer low) [value.number,.ok (.integer high)]) (.valueError message)

def validateUuid (library : Library) (value : Value) (name : String) : Checked String :=
  match value with
  | .text value => do
    require (library.isUuid value) (.valueError s!"bluetooth.{name} is not a valid UUID")
    .ok value
  | _ => .error (.valueError s!"bluetooth.{name} must be a UUID string")

def validateBluetooth (library : Library) (bluetooth : Value) : Checked Unit := do
  let uuidValues ← ["service_uuid","request_characteristic_uuid","response_characteristic_uuid"].mapM fun name => do
    validateUuid library (← bluetooth.get name) name
  require (uuidValues.map library.lower).Nodup (.valueError "service and characteristic UUIDs must be unique")
  let devicePrefix ← bluetooth.get "device_name_prefix"
  require (match devicePrefix with
    | .text value => value ≠ "" && value.utf8ByteSize ≤ 17
    | _ => false) (.valueError "bluetooth.device_name_prefix must be 1 to 17 UTF-8 bytes")
  between 23 517 (← bluetooth.get "preferred_att_mtu" (.integer 0))
    "bluetooth.preferred_att_mtu must be between 23 and 517"
  let advertising ← bluetooth.subscript "advertising_interval_ms"
  require (← Number.ordered (.integer 20)
    [advertising.subscript "minimum" >>= Value.number,advertising.subscript "maximum" >>= Value.number,
      .ok (.integer 10240)]) (.valueError "Bluetooth advertising interval range is invalid")
  let connection ← bluetooth.subscript "preferred_connection"
  require (← Number.ordered (.double 7.5)
    [connection.subscript "minimum_interval_ms" >>= Value.number,
      connection.subscript "maximum_interval_ms" >>= Value.number,.ok (.integer 4000)])
    (.valueError "Bluetooth connection interval range is invalid")
  between 0 499 (← connection.subscript "peripheral_latency")
    "Bluetooth peripheral latency must be between 0 and 499"
  let latency ← (← connection.subscript "peripheral_latency").number
  let intervals ← (Number.integer 2).mul (← latency.add (.integer 1))
  let minimumSupervision ← intervals.mul (← (← connection.subscript "maximum_interval_ms").number)
  require (!(← (← connection.subscript "supervision_timeout_ms").number).le minimumSupervision)
    (.valueError "Bluetooth supervision timeout is too short")

def validateDevice (device : Value) : Checked Unit := do
  require ((← device.get "sensor_count").equals (.number (.finite 2)))
    (.valueError "this protocol revision requires exactly two sensors")
  positive device "device" ["history_capacity_records","sample_period_ms","sampling_task_stack_bytes",
    "sampling_task_priority","failed_reads_before_disconnected","successful_reads_before_reconnected"]
  let capacity ← (← device.subscript "history_capacity_records").number
  require (!(Number.integer 0xFFFF).lt capacity) (.valueError "device.history_capacity_records must fit in u16")
  between 0 100 (← device.subscript "default_backlight_percent")
    "device.default_backlight_percent must be between 0 and 100"

def validateSimulation (device simulation : Value) : Checked Unit := do
  let sensors ← (← simulation.get "sensors" (.array [])).length
  require ((← device.subscript "sensor_count").equals (.number (.finite sensors)))
    (.valueError "simulation.sensors must contain one entry per sensor")

def validateClient (client : Value) : Checked Unit := do
  positive client "client" ["connect_timeout_seconds","scan_timeout_seconds","pairing_timeout_seconds"]
  require (← client.get "use_cached_gatt_services").isBoolean
    (.valueError "client.use_cached_gatt_services must be true or false")

def validateService (library : Library) (service : Value) : Checked Unit := do
  require ((← service.get "api_host").equals (.text "127.0.0.1"))
    (.valueError "service.api_host must remain loopback-only (127.0.0.1)")
  between 1 65535 (← service.get "api_port" (.integer 0)) "service.api_port must be between 1 and 65535"
  positive service "service" ["startup_scan_timeout_seconds","auto_discovery_interval_seconds",
    "recovery_deadline_seconds","poll_interval_seconds","poll_tolerance_seconds","history_sync_budget_seconds",
    "display_command_timeout_seconds","completed_operation_retention_seconds","persistence_queue_capacity"]
  let tolerance ← (← service.subscript "poll_tolerance_seconds").number
  let interval ← (← service.subscript "poll_interval_seconds").number
  require (!interval.le tolerance)
    (.valueError "service.poll_tolerance_seconds must be shorter than the poll interval")
  let retries ← service.get "history_chunk_retry_count"
  let negative := Error.valueError "service.history_chunk_retry_count cannot be negative"
  require retries.isInteger negative
  require (!(← retries.number).lt (.integer 0)) negative
  match ← service.get "credential_registry_filename" (.text "") with
  | .text registryFilename =>
    require (registryFilename.endsWith ".csv" && library.fileName registryFilename = registryFilename)
      (.valueError "service.credential_registry_filename must name a CSV file")
  | _ => .error .attributeError

def validateAuthentication (authentication : Value) : Checked Unit := do
  match ← authentication.get "domain_separator" with
  | .text domain =>
    require (domain ≠ "") (.valueError "authentication.domain_separator cannot be empty")
    require (isAscii domain) (.valueError "authentication.domain_separator must be ASCII")
  | _ => .error (.valueError "authentication.domain_separator cannot be empty")
  require ((← authentication.get "nonce_size_bytes").equals (.number (.finite 16)))
    (.valueError "authentication.nonce_size_bytes must be 16")
  require ((← authentication.get "proof_size_bytes").equals (.number (.finite 32)))
    (.valueError "authentication.proof_size_bytes must be 32")
  positive authentication "authentication" ["challenge_timeout_seconds","maximum_failures","lockout_seconds"]

def collectionNames : List String := ["opcodes","status_codes","visible_states","data_statuses"]

def fitsU8 : Value → Bool
  | .boolean _ => true
  | .integer value => 0 ≤ value && value ≤ 255
  | _ => false

def validateCollection (protocol : Value) (collectionName : String) : Checked Unit := do
  let values ← protocol.get collectionName (.object [])
  let unique := Error.valueError s!"protocol.{collectionName} values must be unique"
  require values.truthy unique
  let entries ← values.dictionary
  let keys ← entries.mapM fun entry => entry.2.key
  require keys.Nodup unique
  require (entries.all fun entry => fitsU8 entry.2) (.valueError s!"protocol.{collectionName} values must fit in u8")

def requiredLayouts : List String :=
  ["header","current_response","set_display_request","set_display_response","history_meta_response",
    "history_chunk_request","history_chunk_prefix","history_record","compact_history_record","auth_begin_response",
    "auth_prove_request"]

def layoutSize (layouts : Value) (layoutName : String) : Checked Nat := do
  let (size,_) ← layoutDetails (← layouts.subscript layoutName)
  .ok size

-- `header_size + prefix_size + records * record_size`.
def packetSize (headerSize prefixSize : Nat) (records : Number) (recordSize : Nat) : Checked Number := do
  (Number.integer (headerSize + prefixSize)).add (← records.mul (.integer recordSize))

def validateLimit (bluetooth protocol layouts : Value) (headerSize prefixSize : Nat) (limitName recordLayout : String)
    (tooLarge : String) : Checked Unit := do
  let records ← protocol.get limitName (.integer 0)
  between 1 255 records s!"{limitName} must be between 1 and 255"
  let size ← packetSize headerSize prefixSize (← records.number) (← layoutSize layouts recordLayout)
  let available ← (← (← bluetooth.subscript "preferred_att_mtu").number).sub (.integer 1)
  require (!available.lt size) (.valueError tooLarge)

def validateProtocol (bluetooth protocol : Value) : Checked Unit := do
  between 1 255 (← protocol.get "version" (.integer 0)) "protocol.version must be between 1 and 255"
  require ((← protocol.get "byte_order").equals (.text "little"))
    (.valueError "implementations currently support little endian only")
  collectionNames.forM (validateCollection protocol)
  let layouts ← protocol.get "layouts" (.object [])
  let entries ← layouts.dictionary
  require (requiredLayouts.all fun name => name ∈ entries.map Prod.fst)
    (.valueError "protocol.layouts is incomplete")
  entries.forM fun entry => do
    let _ ← layoutDetails entry.2
  let headerSize ← layoutSize layouts "header"
  let prefixSize ← layoutSize layouts "history_chunk_prefix"
  validateLimit bluetooth protocol layouts headerSize prefixSize "max_history_records_per_chunk" "history_record"
    "maximum history response does not fit one ATT Read Response"
  validateLimit bluetooth protocol layouts headerSize prefixSize "max_compact_history_records_per_chunk"
    "compact_history_record" "maximum compact history response does not fit one ATT Read Response"

-- In the order in which a message lists them.
def requiredSections : List String :=
  ["authentication","bluetooth","client","device","protocol","service","simulation"]

def loadAndValidate (library : Library) (config : Value) : Checked Value := do
  let entries ← config.dictionary
  let missing := requiredSections.filter fun name => name ∉ entries.map Prod.fst
  let names := String.intercalate ", " missing
  require (missing = []) (.valueError s!"shared configuration is missing: {names}")
  let bluetooth ← config.subscript "bluetooth"
  validateBluetooth library bluetooth
  let device ← config.subscript "device"
  validateDevice device
  validateSimulation device (← config.subscript "simulation")
  validateClient (← config.subscript "client")
  validateService library (← config.subscript "service")
  validateAuthentication (← config.subscript "authentication")
  validateProtocol bluetooth (← config.subscript "protocol")
  .ok config

section Accepted

variable {library : Library} {config result : Value} {details : Nat × List (String × Nat)}

theorem addField_distinct {field : Value} {before : Nat × List (String × Nat)}
    (distinct : (before.2.map Prod.fst).Nodup) (added : addField before field = .ok details) :
    (details.2.map Prod.fst).Nodup := by
  obtain ⟨name,_,added⟩ := bind_ok added
  obtain ⟨fieldType,_,added⟩ := bind_ok added
  cases name with
  | text name =>
    obtain ⟨_,_,added⟩ := bind_ok added
    obtain ⟨size,_,added⟩ := bind_ok added
    obtain ⟨_,fresh,made⟩ := bind_ok added
    have absent : name ∉ before.2.map Prod.fst := of_decide_eq_true (require_ok fresh)
    cases made
    rw [List.map_append,List.map_singleton]
    exact List.Nodup.append distinct (List.nodup_singleton name) (List.disjoint_singleton.mpr absent)
  | _ => cases added

theorem layoutDetails_distinct {layout : Value} (detailed : layoutDetails layout = .ok details) :
    (details.2.map Prod.fst).Nodup := by
  obtain ⟨fields,_,added⟩ := bind_ok detailed
  have kept : ∀ (fields : List Value) (before : Nat × List (String × Nat)), (before.2.map Prod.fst).Nodup →
      fields.foldlM addField before = .ok details → (details.2.map Prod.fst).Nodup := by
    intro fields
    induction fields with
    | nil =>
      intro before distinct added
      cases added
      exact distinct
    | cons field rest ih =>
      intro before distinct added
      rw [List.foldlM_cons] at added
      obtain ⟨middle,first,later⟩ := bind_ok added
      exact ih middle (addField_distinct distinct first) later
  exact kept fields (0,[]) List.nodup_nil added

theorem loadAndValidate_sections (accepted : loadAndValidate library config = .ok result) :
    result = config ∧ ∃ bluetooth device simulation protocol, config.field "bluetooth" = some bluetooth ∧
      config.field "device" = some device ∧ config.field "simulation" = some simulation ∧
      config.field "protocol" = some protocol ∧ validateBluetooth library bluetooth = .ok () ∧
      validateDevice device = .ok () ∧ validateSimulation device simulation = .ok () ∧
      validateProtocol bluetooth protocol = .ok () := by
  obtain ⟨_,_,accepted⟩ := bind_ok accepted
  obtain ⟨_,_,accepted⟩ := bind_ok accepted
  obtain ⟨bluetooth,atBluetooth,accepted⟩ := bind_ok accepted
  obtain ⟨_,bluetoothChecked,accepted⟩ := bind_ok accepted
  obtain ⟨device,atDevice,accepted⟩ := bind_ok accepted
  obtain ⟨_,deviceChecked,accepted⟩ := bind_ok accepted
  obtain ⟨simulation,atSimulation,accepted⟩ := bind_ok accepted
  obtain ⟨_,simulationChecked,accepted⟩ := bind_ok accepted
  obtain ⟨_,_,accepted⟩ := bind_ok accepted
  obtain ⟨_,_,accepted⟩ := bind_ok accepted
  obtain ⟨_,_,accepted⟩ := bind_ok accepted
  obtain ⟨_,_,accepted⟩ := bind_ok accepted
  obtain ⟨_,_,accepted⟩ := bind_ok accepted
  obtain ⟨_,_,accepted⟩ := bind_ok accepted
  obtain ⟨protocol,atProtocol,accepted⟩ := bind_ok accepted
  obtain ⟨_,protocolChecked,accepted⟩ := bind_ok accepted
  exact ⟨(Except.ok.inj accepted).symm,bluetooth,device,simulation,protocol,Value.subscript_ok atBluetooth,
    Value.subscript_ok atDevice,Value.subscript_ok atSimulation,Value.subscript_ok atProtocol,bluetoothChecked,
    deviceChecked,simulationChecked,protocolChecked⟩

theorem equals_unique {value : Value} {first second : Key} (one : value.equals first) (other : value.equals second) :
    first = second := by
  unfold Value.equals at one other
  cases known : value.key with
  | error failure => simp [known] at one
  | ok key =>
    simp only [known,decide_eq_true_eq] at one other
    exact one.symm.trans other

theorem accepted_sensors (accepted : loadAndValidate library config = .ok result) :
    ∃ sensors, (config.follow ["simulation","sensors"]).items = .ok sensors ∧ sensors.length = 2 := by
  obtain ⟨_,_,device,simulation,_,_,_,atSimulation,_,_,deviceChecked,simulationChecked,_⟩ :=
    loadAndValidate_sections accepted
  obtain ⟨count,counted,deviceChecked⟩ := bind_ok deviceChecked
  obtain ⟨_,two,_⟩ := bind_ok deviceChecked
  obtain ⟨sensors,got,simulationChecked⟩ := bind_ok simulationChecked
  obtain ⟨length,measured,simulationChecked⟩ := bind_ok simulationChecked
  obtain ⟨again,read,same⟩ := bind_ok simulationChecked
  obtain ⟨listed,items,rfl⟩ := map_ok measured
  have counts : again = count := by
    rw [Value.get_ok counted,Value.subscript_ok read]
    rfl
  subst counts
  have length : (2 : Rat) = (listed.length : Rat) := by
    have key := equals_unique (require_ok two) (require_ok same)
    simpa using key
  have two : listed.length = 2 := by exact_mod_cast length.symm
  refine ⟨listed,?_,two⟩
  rw [Value.follow_of_field atSimulation,Value.follow]
  have found := Value.get_ok got
  cases present : simulation.field "sensors" with
  | none =>
    rw [present] at found
    subst found
    cases items
    cases two
  | some value =>
    rw [present] at found
    rw [Option.getD_some] at found ⊢
    rw [← found]
    exact items

theorem between_integer {low high value : Int} {message : String}
    (done : between low high (.integer value) message = .ok ()) : low ≤ value ∧ value ≤ high := by
  obtain ⟨chained,ordered,done⟩ := bind_ok done
  cases require_ok done
  obtain ⟨number,read,above,ordered⟩ := Number.ordered_cons ordered
  obtain ⟨top,known,below,_⟩ := Number.ordered_cons ordered
  cases read
  cases known
  rw [Number.le_integer,decide_eq_true_eq] at above below
  exact ⟨above,below⟩

theorem positive_integer {part : Value} {sectionName name : String} {names : List String} {value : Int}
    (done : positive part sectionName names = .ok ()) (member : name ∈ names)
    (field : part.field name = some (.integer value)) : 0 < value := by
  obtain ⟨found,got,checked⟩ := bind_ok (forM_mem done name member)
  have same := Value.get_ok got
  rw [field,Option.getD_some] at same
  subst same
  obtain ⟨number,read,checked⟩ := bind_ok checked
  cases read
  have above := require_ok checked
  rw [Number.le_integer] at above
  simpa using above

theorem accepted_capacity {value : Int} (accepted : loadAndValidate library config = .ok result)
    (capacity : config.follow ["device","history_capacity_records"] = .integer value) : 0 < value ∧ value ≤ 65535 := by
  obtain ⟨_,_,device,_,_,_,atDevice,_,_,_,checked,_,_⟩ := loadAndValidate_sections accepted
  obtain ⟨_,_,checked⟩ := bind_ok checked
  obtain ⟨_,_,checked⟩ := bind_ok checked
  obtain ⟨_,positives,checked⟩ := bind_ok checked
  obtain ⟨found,read,checked⟩ := bind_ok checked
  obtain ⟨number,numbered,checked⟩ := bind_ok checked
  obtain ⟨_,small,_⟩ := bind_ok checked
  have field := Value.subscript_ok read
  rw [Value.follow_of_field atDevice,Value.follow_of_field field] at capacity
  subst capacity
  cases numbered
  have below := require_ok small
  rw [Number.lt_integer] at below
  refine ⟨positive_integer positives (by simp) field,?_⟩
  simpa using below

theorem accepted_limits {limitName : String} {value : Int} (accepted : loadAndValidate library config = .ok result)
    (named : limitName ∈ ["max_history_records_per_chunk","max_compact_history_records_per_chunk"])
    (limit : config.follow ["protocol",limitName] = .integer value) : 1 ≤ value ∧ value ≤ 255 := by
  obtain ⟨_,_,_,_,protocol,_,_,_,atProtocol,_,_,_,checked⟩ := loadAndValidate_sections accepted
  obtain ⟨_,_,checked⟩ := bind_ok checked
  obtain ⟨_,_,checked⟩ := bind_ok checked
  obtain ⟨_,_,checked⟩ := bind_ok checked
  obtain ⟨_,_,checked⟩ := bind_ok checked
  obtain ⟨_,_,checked⟩ := bind_ok checked
  obtain ⟨_,_,checked⟩ := bind_ok checked
  obtain ⟨_,_,checked⟩ := bind_ok checked
  obtain ⟨_,_,checked⟩ := bind_ok checked
  obtain ⟨_,_,checked⟩ := bind_ok checked
  obtain ⟨_,_,checked⟩ := bind_ok checked
  obtain ⟨_,_,checked⟩ := bind_ok checked
  obtain ⟨_,full,compact⟩ := bind_ok checked
  have bounded {bluetooth layouts : Value} {headerSize prefixSize : Nat} {recordLayout tooLarge : String}
      (checked : validateLimit bluetooth protocol layouts headerSize prefixSize limitName recordLayout tooLarge = .ok ()) :
      1 ≤ value ∧ value ≤ 255 := by
    obtain ⟨found,got,checked⟩ := bind_ok checked
    obtain ⟨_,range,_⟩ := bind_ok checked
    rw [Value.follow_of_field atProtocol,Value.follow,Value.follow] at limit
    have same := Value.get_ok got
    cases present : protocol.field limitName with
    | none =>
      rw [present] at limit
      cases limit
    | some value =>
      rw [present,Option.getD_some] at limit same
      subst limit
      subst same
      exact between_integer range
  rcases List.mem_cons.mp named with rfl | named
  · exact bounded full
  · cases List.mem_singleton.mp named
    exact bounded compact

theorem accepted_layouts (accepted : loadAndValidate library config = .ok result) :
    ∀ name ∈ requiredLayouts, ∃ layout, (name,layout) ∈ (config.follow ["protocol","layouts"]).entries := by
  obtain ⟨_,_,_,_,protocol,_,_,_,atProtocol,_,_,_,checked⟩ := loadAndValidate_sections accepted
  obtain ⟨_,_,checked⟩ := bind_ok checked
  obtain ⟨_,_,checked⟩ := bind_ok checked
  obtain ⟨_,_,checked⟩ := bind_ok checked
  obtain ⟨_,_,checked⟩ := bind_ok checked
  obtain ⟨_,_,checked⟩ := bind_ok checked
  obtain ⟨layouts,got,checked⟩ := bind_ok checked
  obtain ⟨entries,known,checked⟩ := bind_ok checked
  obtain ⟨_,complete,_⟩ := bind_ok checked
  have same : entries = (config.follow ["protocol","layouts"]).entries := by
    rw [Value.dictionary_ok known,Value.get_ok got,Value.entries_default,Value.follow_of_field atProtocol]
    rfl
  intro name required
  have present : name ∈ entries.map Prod.fst := by
    simpa using List.all_eq_true.mp (require_ok complete) name required
  obtain ⟨⟨_,layout⟩,member,rfl⟩ := List.mem_map.mp present
  exact ⟨layout,same ▸ member⟩

end Accepted

end Thermometer.SharedConfig
