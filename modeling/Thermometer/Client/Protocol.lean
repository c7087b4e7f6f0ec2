import Thermometer.Client.HistorySync
import Thermometer.Lib.Struct
import Thermometer.Lib.Sha256

-- protocol.py. Temperatures are rationals.
namespace Thermometer.Client.Protocol
open Wire Memory Struct

-- The values of the shared JSON file that both sides are built from.
structure ProtocolConfig where
  protocolVersion : UInt8
  responseFlag : UInt8
  maxHistoryRecordsPerChunk : Nat
  maxCompactHistoryRecordsPerChunk : Nat
  domainSeparator : String

inductive VisibleState where
  | off | on | disconnected
  deriving DecidableEq, Repr

def VisibleState.value : VisibleState → UInt8
  | .off => 0 | .on => 1 | .disconnected => 2

def VisibleState.ofByte (byte : UInt8) : Option VisibleState :=
  [VisibleState.off,.on,.disconnected].find? (·.value == byte)

def Status.all : List Status :=
  [.success,.invalidCommand,.invalidSensor,.invalidValue,.notAvailable,.internalError,.unsupportedVersion,
    .authenticationRequired,.authenticationFailed,.authenticationLocked]

def Status.ofByte (byte : UInt8) : Option Status := Status.all.find? (·.value == byte)

def DataStatus.ofByte (byte : UInt8) : Option DataStatus :=
  [DataStatus.valid,.disconnected].find? (·.value == byte)

def Opcode.name : Opcode → String
  | .getCurrent => "GET_CURRENT" | .setDisplay => "SET_DISPLAY" | .getHistoryMeta => "GET_HISTORY_META"
  | .getHistoryChunk => "GET_HISTORY_CHUNK" | .authBegin => "AUTH_BEGIN" | .authProve => "AUTH_PROVE"
  | .resetBond => "RESET_BOND" | .getHistoryChunkCompact => "GET_HISTORY_CHUNK_COMPACT"

def Status.name : Status → String
  | .success => "SUCCESS" | .invalidCommand => "INVALID_COMMAND" | .invalidSensor => "INVALID_SENSOR"
  | .invalidValue => "INVALID_VALUE" | .notAvailable => "NOT_AVAILABLE" | .internalError => "INTERNAL_ERROR"
  | .unsupportedVersion => "UNSUPPORTED_VERSION" | .authenticationRequired => "AUTHENTICATION_REQUIRED"
  | .authenticationFailed => "AUTHENTICATION_FAILED" | .authenticationLocked => "AUTHENTICATION_LOCKED"

def hexByte (byte : UInt8) : String :=
  let digit (n : Nat) := ("0123456789ABCDEF".toList[n]?).getD '0'
  String.ofList [digit (byte.toNat / 16),digit (byte.toNat % 16)]

def protocolError (message : String) (status : Option Status) : Except Failure α := .error (.protocol message status)

def valueError (message : String) : Except Failure α := .error (.other message)

structure Response where
  version : UInt8
  opcode : Opcode
  requestId : UInt16
  status : Status
  payload : List UInt8
  deriving DecidableEq

structure SensorSnapshot where
  sensorId : Nat
  temperatureC : Option Rat
  visibleState : VisibleState
  displayEnabled : Bool
  deriving DecidableEq

structure CurrentSnapshot where
  bootId : UInt32
  newestSequence : UInt32
  sensors : List SensorSnapshot
  averageC : Option Rat
  deriving DecidableEq

structure DisplayResult where
  sensorId : UInt8
  visibleState : VisibleState
  displayEnabled : Bool
  deriving DecidableEq

structure AuthenticationChallenge where
  deviceId : List UInt8
  bootId : UInt32
  nonce : List UInt8
  deriving DecidableEq

def unpackLayout (name : String) (size : Nat) (layout : Layout α) (data : List UInt8) : Except Failure α :=
  match unpack layout data with
  | some values => .ok values
  | none => protocolError s!"{name} has {data.length} bytes; expected {size}" none

structure Header where
  version : UInt8
  opcode : UInt8
  requestId : UInt16
  payloadLength : UInt16
  status : UInt8
  flags : UInt8

def header : Layout Header := do
  let version ← u8
  let opcode ← u8
  let requestId ← u16
  let payloadLength ← u16
  let status ← u8
  let flags ← u8
  return ⟨version,opcode,requestId,payloadLength,status,flags⟩

def packHeader (values : Header) : List UInt8 :=
  [values.version,values.opcode] ++ u16Bytes values.requestId ++ u16Bytes values.payloadLength ++
    [values.status,values.flags]

structure SensorFields where
  temperatureCentiC : Int16
  visibleState : UInt8
  displayEnabled : UInt8

def sensorFields : Layout SensorFields := do
  let temperatureCentiC ← i16
  let visibleState ← u8
  let displayEnabled ← u8
  return ⟨temperatureCentiC,visibleState,displayEnabled⟩

structure CurrentFields where
  bootId : UInt32
  newestSequence : UInt32
  sensors : List SensorFields
  averageTemperatureCentiC : Int16
  averageValid : UInt8
  reserved : UInt8

def currentResponse : Layout CurrentFields := do
  let bootId ← u32
  let newestSequence ← u32
  let sensor1 ← sensorFields
  let sensor2 ← sensorFields
  let averageTemperatureCentiC ← i16
  let averageValid ← u8
  let reserved ← u8
  return ⟨bootId,newestSequence,[sensor1,sensor2],averageTemperatureCentiC,averageValid,reserved⟩

def setDisplayResponse : Layout (UInt8 × UInt8 × UInt8) := do
  let sensorId ← u8
  let visibleState ← u8
  let enabled ← u8
  return (sensorId,visibleState,enabled)

def historyMetaResponse : Layout HistoryMeta := do
  let bootId ← u32
  let newestSequence ← u32
  let sensor1Count ← u16
  let sensor2Count ← u16
  let sensor1OldestSequence ← u32
  let sensor2OldestSequence ← u32
  return ⟨bootId,newestSequence,![sensor1Count,sensor2Count],![sensor1OldestSequence,sensor2OldestSequence]⟩

structure ChunkPrefix where
  sensorId : UInt8
  startSequence : UInt32
  recordCount : UInt8
  recordSize : UInt8

def historyChunkPrefix : Layout ChunkPrefix := do
  let sensorId ← u8
  let startSequence ← u32
  let recordCount ← u8
  let recordSize ← u8
  return ⟨sensorId,startSequence,recordCount,recordSize⟩

structure RecordFields where
  sequence : Option UInt32
  temperatureCentiC : Int16
  dataStatus : UInt8

def historyRecord : Layout RecordFields := do
  let sequence ← u32
  let temperatureCentiC ← i16
  let dataStatus ← u8
  return ⟨some sequence,temperatureCentiC,dataStatus⟩

def compactHistoryRecord : Layout RecordFields := do
  let temperatureCentiC ← i16
  let dataStatus ← u8
  return ⟨none,temperatureCentiC,dataStatus⟩

def authBeginResponse : Layout AuthenticationChallenge := do
  let deviceId ← bytes 6
  let bootId ← u32
  let nonce ← bytes 16
  return ⟨deviceId,bootId,nonce⟩

variable (cfg : ProtocolConfig)

def buildRequest (opcode : Opcode) (requestId : Int) (payload : List UInt8) : Except Failure (List UInt8) :=
  if requestId < 0 ∨ 65535 < requestId then valueError "request_id must fit in an unsigned 16-bit integer"
  else if 65535 < payload.length then valueError "payload is too long"
  else .ok (packHeader ⟨cfg.protocolVersion,opcode.value,.ofNat requestId.toNat,payload.length.toUInt16,0,0⟩ ++ payload)

def validateSensorId (sensorId : Int) : Except Failure Unit :=
  if sensorId < 1 ∨ sensorCount < sensorId then valueError s!"sensor_id must be between 1 and {sensorCount}" else .ok ()

def buildSetDisplayRequest (requestId sensorId : Int) (enabled : Bool) : Except Failure (List UInt8) := do
  validateSensorId sensorId
  buildRequest cfg .setDisplay requestId [.ofNat sensorId.toNat,if enabled then 1 else 0]

def buildAuthenticationProofRequest (requestId : Int) (proof : List UInt8) : Except Failure (List UInt8) :=
  if proof.length ≠ authProveRequestSize then
    valueError s!"authentication proof must contain {authProveRequestSize} bytes"
  else buildRequest cfg .authProve requestId proof

def chunkOpcode (compact : Bool) : Opcode := if compact then .getHistoryChunkCompact else .getHistoryChunk

def maximumRecords (compact : Bool) : Nat :=
  if compact then cfg.maxCompactHistoryRecordsPerChunk else cfg.maxHistoryRecordsPerChunk

def chunkRequest (sensorId : UInt8) (startSequence : UInt32) (count : UInt8) : List UInt8 :=
  [sensorId] ++ u32Bytes startSequence ++ [count]

def buildHistoryChunkRequest (requestId sensorId startSequence count : Int) (compact : Bool) :
    Except Failure (List UInt8) := do
  validateSensorId sensorId
  if startSequence < 0 ∨ 4294967295 < startSequence then
    valueError "start_sequence must fit in an unsigned 32-bit integer"
  else if count < 1 ∨ maximumRecords cfg compact < count then
    valueError s!"count must be between 1 and {maximumRecords cfg compact}"
  else
    buildRequest cfg (chunkOpcode compact) requestId
      (chunkRequest (.ofNat sensorId.toNat) (.ofNat startSequence.toNat) (.ofNat count.toNat))

def validatePasskey (passkey : String) : Except Failure String :=
  if passkey.length ≠ 6 ∨ !passkey.toList.all (·.toNat < 128) ∨ !passkey.toList.all Char.isDigit then
    valueError "passkey must contain exactly six ASCII digits"
  else .ok passkey

-- `encode("ascii")` of a text that was checked to be ASCII before.
def asciiBytes (text : String) : List UInt8 := text.toList.map fun c => c.toNat.toUInt8

def proofMessage (challenge : AuthenticationChallenge) : List UInt8 :=
  asciiBytes cfg.domainSeparator ++ [cfg.protocolVersion] ++ challenge.deviceId ++ u32Bytes challenge.bootId ++
    challenge.nonce

def computeAuthenticationProof (passkey : String) (challenge : AuthenticationChallenge) : Except Failure (List UInt8) :=
  if challenge.deviceId.length ≠ 6 then valueError "authentication device identity must contain six bytes"
  else if challenge.nonce.length ≠ 16 then valueError "authentication nonce has an invalid size"
  else do
    let key ← validatePasskey passkey
    .ok (Sha256.hmac (asciiBytes key) (proofMessage cfg challenge))

def expectedName (expectedOpcode : Option Opcode) : String := (expectedOpcode.map Opcode.name).getD ""

def checkResponse (expectedOpcode : Option Opcode) (expectedRequestId : Option UInt16) (allowError : Bool)
    (response : Response) : Except Failure Response :=
  if response.version ≠ cfg.protocolVersion then
    protocolError s!"protocol version mismatch: client={cfg.protocolVersion}, server={response.version}" response.status
  else if expectedOpcode.any (response.opcode ≠ ·) then
    protocolError s!"response opcode {Opcode.name response.opcode} does not match {expectedName expectedOpcode}"
      response.status
  else if expectedRequestId.any (response.requestId ≠ ·) then
    protocolError s!"response request ID {response.requestId} does not match {expectedRequestId.getD 0}" response.status
  else if response.status ≠ .success ∧ !allowError then
    protocolError s!"ESP32 returned {Status.name response.status}" response.status
  else .ok response

def parseResponse (packet : List UInt8) (expectedOpcode : Option Opcode) (expectedRequestId : Option UInt16)
    (allowError : Bool) : Except Failure Response :=
  if packet.length < headerSize then
    protocolError s!"response is shorter than the {headerSize}-byte header" none
  else do
    let values ← unpackLayout "header" headerSize header (packet.take headerSize)
    let payload := packet.drop headerSize
    if payload.length ≠ values.payloadLength.toNat then
      protocolError "response payload length does not match its header" none
    else if values.flags &&& cfg.responseFlag = 0 then
      protocolError "packet is not marked as a response" none
    else
      match Opcode.ofByte values.opcode,Status.ofByte values.status with
      | none,_ => protocolError s!"unknown response opcode 0x{hexByte values.opcode}" none
      | some _,none => protocolError s!"unknown response status {values.status}" none
      | some opcode,some status =>
        checkResponse cfg expectedOpcode expectedRequestId allowError
          ⟨values.version,opcode,values.requestId,status,payload⟩

def centigrade (centi : Int16) : Rat := centi.toInt / 100

def decodeSensor (sensorId : Nat) (values : SensorFields) : Except Failure SensorSnapshot :=
  match VisibleState.ofByte values.visibleState with
  | none => protocolError s!"invalid visible state {values.visibleState}" none
  | some state =>
    if values.displayEnabled ≠ 0 ∧ values.displayEnabled ≠ 1 then protocolError "display flag is not Boolean" none
    else .ok ⟨sensorId,if state = .disconnected then none else some (centigrade values.temperatureCentiC),state,
      values.displayEnabled ≠ 0⟩

def decodeSensors : Nat → List SensorFields → Except Failure (List SensorSnapshot)
  | _,[] => .ok []
  | sensorId,values :: rest => do
    let sensor ← decodeSensor sensorId values
    let sensors ← decodeSensors (sensorId + 1) rest
    .ok (sensor :: sensors)

def decodeCurrent (response : Response) : Except Failure CurrentSnapshot :=
  if response.opcode ≠ .getCurrent then protocolError "response is not GET_CURRENT" none
  else do
    let values ← unpackLayout "current_response" currentResponseSize currentResponse response.payload
    let sensors ← decodeSensors 1 values.sensors
    if (values.averageValid ≠ 0 ∧ values.averageValid ≠ 1) ∨ values.reserved ≠ 0 then
      protocolError "invalid average flags" none
    else .ok ⟨values.bootId,values.newestSequence,sensors,
      if values.averageValid ≠ 0 then some (centigrade values.averageTemperatureCentiC) else none⟩

def decodeDisplayResult (response : Response) : Except Failure DisplayResult :=
  if response.opcode ≠ .setDisplay then protocolError "response is not SET_DISPLAY" none
  else do
    let (sensorId,visibleState,enabled) ←
      unpackLayout "set_display_response" setDisplayResponseSize setDisplayResponse response.payload
    validateSensorId sensorId.toNat
    if enabled ≠ 0 ∧ enabled ≠ 1 then protocolError "display flag is not Boolean" none
    else
      match VisibleState.ofByte visibleState with
      | none => protocolError s!"invalid visible state {visibleState}" none
      | some state => .ok ⟨sensorId,state,enabled ≠ 0⟩

def decodeAuthenticationChallenge (response : Response) : Except Failure AuthenticationChallenge :=
  if response.opcode ≠ .authBegin then protocolError "response is not AUTH_BEGIN" none
  else unpackLayout "auth_begin_response" authBeginResponseSize authBeginResponse response.payload

def decodeHistoryMeta (response : Response) : Except Failure HistoryMeta :=
  if response.opcode ≠ .getHistoryMeta then protocolError "response is not GET_HISTORY_META" none
  else unpackLayout "history_meta_response" historyMetaResponseSize historyMetaResponse response.payload

def recordLayout (compact : Bool) : String × Nat × Layout RecordFields :=
  if compact then ("compact_history_record",compactHistoryRecordSize,compactHistoryRecord)
  else ("history_record",historyRecordSize,historyRecord)

-- One round of the loop over the records. The compact form carries no sequence.
def decodeRecord (compact : Bool) (startSequence : UInt32) (payload : List UInt8) (recordIndex : Nat) :
    Except Failure HistoryRecordValue := do
  let (name,size,layout) := recordLayout compact
  let offset := historyChunkPrefixSize + recordIndex * size
  let values ← unpackLayout name size layout ((payload.drop offset).take size)
  match DataStatus.ofByte values.dataStatus with
  | none => protocolError s!"invalid history data status {values.dataStatus}" none
  | some dataStatus =>
    .ok ⟨values.sequence.getD (startSequence + .ofNat recordIndex),
      if dataStatus = .valid then some (centigrade values.temperatureCentiC) else none,dataStatus⟩

def decodeHistoryChunk (response : Response) : Except Failure HistoryChunk :=
  if response.opcode ≠ .getHistoryChunk ∧ response.opcode ≠ .getHistoryChunkCompact then
    protocolError "response is not a history chunk" none
  else
    let compact := response.opcode = .getHistoryChunkCompact
    let recordSize := (recordLayout compact).2.1
    if response.payload.length < historyChunkPrefixSize then
      protocolError "history chunk is shorter than its prefix" none
    else do
      let chunk ← unpackLayout "history_chunk_prefix" historyChunkPrefixSize historyChunkPrefix
        (response.payload.take historyChunkPrefixSize)
      if chunk.sensorId = 0 ∨ sensorCount < chunk.sensorId.toNat then
        protocolError s!"sensor_id must be between 1 and {sensorCount}" none
      else if chunk.recordSize.toNat ≠ recordSize then
        protocolError "history record size does not match the shared layout" none
      else if response.payload.length ≠ historyChunkPrefixSize + chunk.recordCount.toNat * recordSize then
        protocolError "history chunk contains an incomplete record" none
      else do
        let records ← (List.range chunk.recordCount.toNat).mapM (decodeRecord compact chunk.startSequence response.payload)
        .ok ⟨chunk.sensorId.toNat,chunk.startSequence,records⟩

end Thermometer.Client.Protocol
