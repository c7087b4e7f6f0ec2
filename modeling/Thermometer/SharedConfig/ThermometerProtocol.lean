import Thermometer.SharedConfig.LoadAndValidate

-- protocol/thermometer_protocol.json, the document of the repository.
namespace Thermometer.SharedConfig
open Json

def bluetoothSection : Value :=
  .object [("device_name_prefix",.text "Thermometer-"),("service_uuid",.text "7e570001-7e57-4a11-9d8b-5f21d8a0c001"),
    ("request_characteristic_uuid",.text "7e570002-7e57-4a11-9d8b-5f21d8a0c001"),
    ("response_characteristic_uuid",.text "7e570003-7e57-4a11-9d8b-5f21d8a0c001"),("preferred_att_mtu",.integer 247),
    ("advertising_interval_ms",.object [("minimum",.integer 800),("maximum",.integer 1000)]),
    ("preferred_connection",.object [("minimum_interval_ms",.integer 50),("maximum_interval_ms",.integer 50),
    ("peripheral_latency",.integer 1),("supervision_timeout_ms",.integer 6000)])]

def deviceSection : Value :=
  .object [("sensor_count",.integer 2),("history_capacity_records",.integer 300),("sample_period_ms",.integer 1000),
    ("sampling_task_stack_bytes",.integer 3072),("sampling_task_priority",.integer 5),
    ("failed_reads_before_disconnected",.integer 1),("successful_reads_before_reconnected",.integer 1),
    ("default_backlight_percent",.integer 100)]

def simulationSection : Value :=
  .object [("simulate_disconnects",.boolean true),("disconnect_cycle_samples",.integer 60),
    ("sensors",.array [.object [("center_centi_c",.integer 2000),("amplitude_centi_c",.integer 300),
    ("wave_period_samples",.integer 30),("wave_offset_samples",.integer 0),("disconnect_start_sample",.integer 55),
    ("disconnect_end_sample",.integer 60)],.object [("center_centi_c",.integer 2250),
    ("amplitude_centi_c",.integer 220),("wave_period_samples",.integer 40),("wave_offset_samples",.integer 9),
    ("disconnect_start_sample",.integer 25),("disconnect_end_sample",.integer 30)]])]

def clientSection : Value :=
  .object [("connect_timeout_seconds",.double 20.0),("scan_timeout_seconds",.double 5.0),
    ("pairing_timeout_seconds",.double 30.0),("use_cached_gatt_services",.boolean false)]

def serviceSection : Value :=
  .object [("api_host",.text "127.0.0.1"),("api_port",.integer 8000),("startup_scan_timeout_seconds",.double 2.5),
    ("auto_discovery_interval_seconds",.double 2.0),("recovery_deadline_seconds",.double 10.0),
    ("poll_interval_seconds",.double 1.0),("poll_tolerance_seconds",.double 0.1),
    ("history_sync_budget_seconds",.double 10.0),("history_chunk_retry_count",.integer 2),
    ("display_command_timeout_seconds",.double 5.0),("completed_operation_retention_seconds",.double 600.0),
    ("persistence_queue_capacity",.integer 300),("credential_registry_filename",.text "paired_devices.csv")]

def authenticationSection : Value :=
  .object [("domain_separator",.text "THERMOMETER-AUTH-V2"),("nonce_size_bytes",.integer 16),
    ("proof_size_bytes",.integer 32),("challenge_timeout_seconds",.double 5.0),("maximum_failures",.integer 3),
    ("lockout_seconds",.double 30.0)]

def layoutFields : List (String × List (String × String)) :=
  [("header",[("version","u8"),("opcode","u8"),("request_id","u16"),("payload_length","u16"),("status","u8"),
      ("flags","u8")]),
    ("current_response",[("boot_id","u32"),("newest_sequence","u32"),("sensor_1_temperature_centi_c","i16"),
      ("sensor_1_visible_state","u8"),("sensor_1_display_enabled","u8"),("sensor_2_temperature_centi_c","i16"),
      ("sensor_2_visible_state","u8"),("sensor_2_display_enabled","u8"),("average_temperature_centi_c","i16"),
      ("average_valid","u8"),("reserved","u8")]),
    ("set_display_request",[("sensor_id","u8"),("enabled","u8")]),
    ("set_display_response",[("sensor_id","u8"),("visible_state","u8"),("enabled","u8")]),
    ("history_meta_response",[("boot_id","u32"),("newest_sequence","u32"),("sensor_1_count","u16"),
      ("sensor_2_count","u16"),("sensor_1_oldest_sequence","u32"),("sensor_2_oldest_sequence","u32")]),
    ("history_chunk_request",[("sensor_id","u8"),("start_sequence","u32"),("record_count","u8")]),
    ("history_chunk_prefix",[("sensor_id","u8"),("start_sequence","u32"),("record_count","u8"),("record_size","u8")]),
    ("history_record",[("sequence","u32"),("temperature_centi_c","i16"),("data_status","u8")]),
    ("compact_history_record",[("temperature_centi_c","i16"),("data_status","u8")]),
    ("auth_begin_response",[("device_id","bytes6"),("boot_id","u32"),("nonce","bytes16")]),
    ("auth_prove_request",[("proof","bytes32")])]

def layoutValue (fields : List (String × String)) : Value :=
  .array (fields.map fun field => .object [("name",.text field.1),("type",.text field.2)])

-- The limits and further layouts are open.
def protocolSection (maxRecords maxCompactRecords : Int) (moreLayouts : List (String × List (String × String))) : Value :=
  .object [("version",.integer 2),("byte_order",.text "little"),("response_flag",.integer 1),
    ("max_history_records_per_chunk",.integer maxRecords),
    ("max_compact_history_records_per_chunk",.integer maxCompactRecords),
    ("opcodes",.object [("get_current",.integer 1),("set_display",.integer 2),("get_history_meta",.integer 3),
    ("get_history_chunk",.integer 4),("auth_begin",.integer 5),("auth_prove",.integer 6),("reset_bond",.integer 7),
    ("get_history_chunk_compact",.integer 8)]),("status_codes",.object [("success",.integer 0),
    ("invalid_command",.integer 1),("invalid_sensor",.integer 2),("invalid_value",.integer 3),
    ("not_available",.integer 4),("internal_error",.integer 5),("unsupported_version",.integer 6),
    ("authentication_required",.integer 7),("authentication_failed",.integer 8),
    ("authentication_locked",.integer 9)]),("visible_states",.object [("off",.integer 0),("on",.integer 1),
    ("disconnected",.integer 2)]),("data_statuses",.object [("valid",.integer 0),("disconnected",.integer 1)]),
    ("layouts",.object ((layoutFields ++ moreLayouts).map fun entry => (entry.1,layoutValue entry.2)))]

def document (maxRecords maxCompactRecords : Int) (moreLayouts : List (String × List (String × String))) : Value :=
  .object [("bluetooth",bluetoothSection),("device",deviceSection),("simulation",simulationSection),
    ("client",clientSection),("service",serviceSection),("authentication",authenticationSection),
    ("protocol",protocolSection maxRecords maxCompactRecords moreLayouts)]

def thermometerProtocol : Value := document 32 72 []

-- The library on ASCII texts, on names without a directory and on integers.
def asciiLibrary : Library where
  upper := asciiUpper
  upperAscii _ _ := rfl
  lower text := String.ofList (text.toList.map Char.toLower)
  isUuid text := text.toList.all (fun character => character.isDigit || "abcdefABCDEF-".toList.contains character) &&
    (text.toList.filter fun character => character ≠ '-').length = 32
  fileName text := text
  str
    | .integer value => toString value
    | .text value => value
    | _ => ""

theorem thermometerProtocol_accepted : (loadAndValidate asciiLibrary thermometerProtocol).toBool = true := by
  decide +kernel

end Thermometer.SharedConfig
