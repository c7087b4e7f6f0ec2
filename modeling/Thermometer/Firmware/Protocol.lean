import Thermometer.Firmware.State
import Thermometer.Firmware.ApplicationAuth
import Thermometer.Wire

namespace Thermometer.Firmware
open Memory Wire

-- The generated header as far as the request handling uses it.
structure FirmwareConfig where
  device : DeviceConfig
  auth : AuthConfig
  responseFlag : UInt8
  maxHistoryRecords : Nat
  maxCompactHistoryRecords : Nat

def FirmwareConfig.maxPacketSize (cfg : FirmwareConfig) : Nat :=
  max (headerSize + historyChunkPrefixSize + cfg.maxHistoryRecords * historyRecordSize)
    (headerSize + historyChunkPrefixSize + cfg.maxCompactHistoryRecords * compactHistoryRecordSize)

structure ProtocolSession where
  authentication : AuthSession
  bondResetRequested : Bool

def ProtocolSession.zeroed : ProtocolSession := ⟨.zeroed,false⟩

def protocolSessionStart (deviceId : Vector UInt8 6) : ProtocolSession := ⟨authSessionStart deviceId,false⟩

def protocolSessionEnd : ProtocolSession := .zeroed

structure Device (cfg : FirmwareConfig) where
  thermometer : State cfg.device
  lockout : Lockout

-- What one request reads from the platform, should it ask: the microsecond timer
-- and sixteen random bytes.
structure Platform where
  nowUs : Int
  random : Vector UInt8 16

structure Reply (capacity : Nat) where
  buffer : Vector UInt8 capacity
  length : Nat

structure Outcome (cfg : FirmwareConfig) (capacity : Nat) where
  reply : Reply capacity
  session : ProtocolSession
  device : Device cfg

variable (cfg : FirmwareConfig) {capacity : Nat}

-- Every access to the request or the response goes through `load` and `store`, so
-- `none` means that the C code would have left one of the two buffers.
def finishResponse (response : Vector UInt8 capacity) (opcode : UInt8) (requestId : UInt16) (status : Status)
    (payloadLength : Nat) : Option (Reply capacity) := do
  let response ← store response headerVersion [cfg.auth.protocolVersion]
  let response ← store response headerOpcode [opcode]
  let response ← store response headerRequestId (u16Bytes requestId)
  let response ← store response headerPayloadLength (u16Bytes payloadLength.toUInt16)
  let response ← store response headerStatus [status.value]
  let response ← store response headerFlags [cfg.responseFlag]
  some ⟨response,headerSize + payloadLength⟩

variable (device : Device cfg) (session : ProtocolSession) (opcode : UInt8) (requestId : UInt16)
  (response : Vector UInt8 capacity) (platform : Platform) (payload : List UInt8)

def finishEmpty (status : Status) : Option (Outcome cfg capacity) := do
  let reply ← finishResponse cfg response opcode requestId status 0
  some ⟨reply,session,device⟩

def handleAuthBegin : Option (Outcome cfg capacity) :=
  let (result,authentication,lockout) :=
    applicationAuthBegin session.authentication device.lockout platform.nowUs platform.random
  let session := { session with authentication := authentication }
  let device := { device with lockout := lockout }
  if result = .locked then
    finishEmpty cfg device session opcode requestId response .authenticationLocked
  else if result ≠ .success ∨ capacity < headerSize + authBeginResponseSize then
    finishEmpty cfg device session opcode requestId response .internalError
  else do
    let snapshot := currentSnapshot device.thermometer
    let response ← store response (headerSize + authBeginResponseDeviceId) authentication.deviceId.toList
    let response ← store response (headerSize + authBeginResponseBootId) (u32Bytes snapshot.bootId)
    let response ← store response (headerSize + authBeginResponseNonce) authentication.nonce.toList
    let reply ← finishResponse cfg response opcode requestId .success authBeginResponseSize
    some ⟨reply,session,device⟩

def handleAuthProve : Option (Outcome cfg capacity) :=
  if payload.length ≠ authProveRequestSize then
    finishEmpty cfg device session opcode requestId response .authenticationRequired
  else do
    let snapshot := currentSnapshot device.thermometer
    let received ← load payload 0 32
    let (result,authentication,lockout) := applicationAuthProve cfg.auth session.authentication device.lockout
      platform.nowUs snapshot.bootId received
    let session := { session with authentication := authentication }
    let device := { device with lockout := lockout }
    match result with
    | .locked => finishEmpty cfg device session opcode requestId response .authenticationLocked
    | .failed => finishEmpty cfg device session opcode requestId response .authenticationFailed
    | .required => finishEmpty cfg device session opcode requestId response .authenticationRequired
    | .success => finishEmpty cfg device session opcode requestId response .success

def visibleValue : VisibleState → UInt8
  | .off => 0 | .on => 1 | .disconnected => 2

def flagByte (flag : Bool) : UInt8 := if flag then 1 else 0

-- `encode_sensor_snapshot`; the three fields of a sensor are adjacent in the layout.
def encodeSensorSnapshot (response : Vector UInt8 capacity) (offset : Nat) (sensor : SensorSnapshot) :
    Option (Vector UInt8 capacity) := do
  let response ← store response offset (u16Bytes sensor.temperatureCentiC.toUInt16)
  let response ← store response (offset + 2) [visibleValue (visibleState sensor)]
  store response (offset + 3) [flagByte sensor.displayEnabled]

def handleGetCurrent : Option (Outcome cfg capacity) :=
  if capacity < headerSize + currentResponseSize then
    finishEmpty cfg device session opcode requestId response .internalError
  else do
    let snapshot := currentSnapshot device.thermometer
    let response ← store response (headerSize + currentResponseBootId) (u32Bytes snapshot.bootId)
    let response ← store response (headerSize + currentResponseNewestSequence)
      (u32Bytes snapshot.newestSequence)
    let response ← encodeSensorSnapshot response (headerSize + currentResponseSensor1) (snapshot.sensors 0)
    let response ← encodeSensorSnapshot response (headerSize + currentResponseSensor2) (snapshot.sensors 1)
    let response ← store response (headerSize + currentResponseAverage)
      (u16Bytes snapshot.averageCentiC.toUInt16)
    let response ← store response (headerSize + currentResponseAverageValid) [flagByte snapshot.averageValid]
    let response ← store response (headerSize + currentResponseReserved) [0]
    let reply ← finishResponse cfg response opcode requestId .success currentResponseSize
    some ⟨reply,session,device⟩

def handleSetDisplay : Option (Outcome cfg capacity) :=
  if payload.length ≠ setDisplayRequestSize then
    finishEmpty cfg device session opcode requestId response .invalidValue
  else do
    let sensorId ← payload[0]?
    let enabled ← payload[1]?
    if sensorId = 0 ∨ sensorCount < sensorId.toNat then
      finishEmpty cfg device session opcode requestId response .invalidSensor
    else if 1 < enabled then
      finishEmpty cfg device session opcode requestId response .invalidValue
    else if capacity < headerSize + setDisplayResponseSize then
      finishEmpty cfg device session opcode requestId response .internalError
    else do
      let (result,thermometer) := setDisplay device.thermometer sensorId (enabled ≠ 0)
      -- The result variables keep their initial values when the call fails early.
      let outcome := result.getD ⟨false,.disconnected,false⟩
      let response ← store response headerSize [sensorId]
      let response ← store response (headerSize + 1) [visibleValue outcome.resultingState]
      let response ← store response (headerSize + 2) [flagByte outcome.resultingEnabled]
      let status := if outcome.available then .success else .notAvailable
      let reply ← finishResponse cfg response opcode requestId status setDisplayResponseSize
      some ⟨reply,session,{ device with thermometer := thermometer }⟩

def handleGetHistoryMeta : Option (Outcome cfg capacity) :=
  if capacity < headerSize + historyMetaResponseSize then
    finishEmpty cfg device session opcode requestId response .internalError
  else do
    let (answer,thermometer) := getHistoryMeta device.thermometer
    let response ← store response (headerSize + historyMetaResponseBootId) (u32Bytes answer.bootId)
    let response ← store response (headerSize + historyMetaResponseNewestSequence)
      (u32Bytes answer.newestSequence)
    let response ← store response (headerSize + historyMetaResponseSensor1Count) (u16Bytes (answer.counts 0))
    let response ← store response (headerSize + historyMetaResponseSensor2Count) (u16Bytes (answer.counts 1))
    let response ← store response (headerSize + historyMetaResponseSensor1Oldest)
      (u32Bytes (answer.oldestSequences 0))
    let response ← store response (headerSize + historyMetaResponseSensor2Oldest)
      (u32Bytes (answer.oldestSequences 1))
    let reply ← finishResponse cfg response opcode requestId .success historyMetaResponseSize
    some ⟨reply,session,{ device with thermometer := thermometer }⟩

def encodeRecord (compact : Bool) (record : HistoryRecord) : List UInt8 :=
  (if compact then [] else u32Bytes record.sequence) ++ u16Bytes record.temperatureCentiC.toUInt16 ++
    [record.dataStatus.value]

def storeRecords (compact : Bool) (recordSize : Nat) (response : Vector UInt8 capacity) (offset : Nat) :
    List HistoryRecord → Option (Vector UInt8 capacity)
  | [] => some response
  | record :: rest => do
    let response ← store response offset (encodeRecord compact record)
    storeRecords compact recordSize response (offset + recordSize) rest

-- The local array of the handler holds PROTOCOL_MAX_COMPACT_HISTORY_RECORDS records
-- for both forms; copying more than that is a fault as well.
def copyRecords (thermometer : State cfg.device) (sensorId : UInt8) (startSequence : UInt32)
    (requestedCount : Nat) : Option (Option (List HistoryRecord)) :=
  match copyHistory thermometer sensorId startSequence requestedCount with
  | none => some none
  | some records => if records.length ≤ cfg.maxCompactHistoryRecords then some (some records) else none

def handleGetHistoryChunk (compact : Bool) : Option (Outcome cfg capacity) :=
  if payload.length ≠ historyChunkRequestSize then
    finishEmpty cfg device session opcode requestId response .invalidValue
  else do
    let sensorId ← payload[0]?
    let startSequence ← readU32 payload historyChunkRequestStartSequence
    let requested ← payload[historyChunkRequestRecordCount]?
    if sensorId = 0 ∨ sensorCount < sensorId.toNat then
      finishEmpty cfg device session opcode requestId response .invalidSensor
    else if requested = 0 then
      finishEmpty cfg device session opcode requestId response .invalidValue
    else do
      let maxRecords := if compact then cfg.maxCompactHistoryRecords else cfg.maxHistoryRecords
      let recordSize := if compact then compactHistoryRecordSize else historyRecordSize
      let packetOverhead := headerSize + historyChunkPrefixSize
      let recordsThatFit :=
        if packetOverhead < capacity then (capacity - packetOverhead) / recordSize else 0
      let requestedCount := min (min requested.toNat maxRecords) recordsThatFit
      if requestedCount = 0 then
        finishEmpty cfg device session opcode requestId response .internalError
      else
        match ← copyRecords cfg device.thermometer sensorId startSequence requestedCount with
        | none => finishEmpty cfg device session opcode requestId response .notAvailable
        | some records =>
          let response ← store response headerSize [sensorId]
          let response ← store response (headerSize + historyChunkPrefixStartSequence) (u32Bytes startSequence)
          let response ← store response (headerSize + historyChunkPrefixRecordCount) [records.length.toUInt8]
          let response ← store response (headerSize + historyChunkPrefixRecordSize) [recordSize.toUInt8]
          let response ← storeRecords compact recordSize response packetOverhead records
          let reply ← finishResponse cfg response opcode requestId .success
            (historyChunkPrefixSize + records.length * recordSize)
          some ⟨reply,session,device⟩

-- The switch behind the authentication check.
def handleAuthenticated : Option (Outcome cfg capacity) :=
  match Opcode.ofByte opcode with
  | some .getCurrent =>
    if payload.length ≠ 0 then finishEmpty cfg device session opcode requestId response .invalidValue
    else handleGetCurrent cfg device session opcode requestId response
  | some .setDisplay => handleSetDisplay cfg device session opcode requestId response payload
  | some .getHistoryMeta =>
    if payload.length ≠ 0 then finishEmpty cfg device session opcode requestId response .invalidValue
    else handleGetHistoryMeta cfg device session opcode requestId response
  | some .getHistoryChunk => handleGetHistoryChunk cfg device session opcode requestId response payload false
  | some .getHistoryChunkCompact =>
    handleGetHistoryChunk cfg device session opcode requestId response payload true
  | some .resetBond =>
    if payload.length ≠ 0 then finishEmpty cfg device session opcode requestId response .invalidValue
    else finishEmpty cfg device { session with bondResetRequested := true } opcode requestId response .success
  | _ => finishEmpty cfg device session opcode requestId response .invalidCommand

-- The two authentication requests and the check in front of all others.
def dispatch : Option (Outcome cfg capacity) :=
  match Opcode.ofByte opcode with
  | some .authBegin =>
    if payload.length ≠ 0 then finishEmpty cfg device session opcode requestId response .invalidValue
    else handleAuthBegin cfg device session opcode requestId response platform
  | some .authProve => handleAuthProve cfg device session opcode requestId response platform payload
  | _ =>
    if session.authentication.authenticated then
      handleAuthenticated cfg device session opcode requestId response payload
    else finishEmpty cfg device session opcode requestId response .authenticationRequired

-- What a response echoes even when the request is too short to have a header.
def echoedOpcode (request : List UInt8) : Option UInt8 :=
  if headerOpcode < request.length then request[headerOpcode]? else some 0

def echoedRequestId (request : List UInt8) : Option UInt16 :=
  if headerRequestId + 2 ≤ request.length then readU16 request headerRequestId else some 0

-- The pointers are never NULL: the only caller passes static objects.
def processRequest (request : List UInt8) : Option (Outcome cfg capacity) :=
  if capacity < headerSize then some ⟨⟨response,0⟩,session,device⟩
  else do
    let response := Vector.replicate capacity 0
    let opcode ← echoedOpcode request
    let requestId ← echoedRequestId request
    if request.length < headerSize then
      finishEmpty cfg device session opcode requestId response .invalidValue
    else do
      let version ← request[headerVersion]?
      if version ≠ cfg.auth.protocolVersion then
        finishEmpty cfg device session opcode requestId response .unsupportedVersion
      else do
        let declaredPayloadLength ← readU16 request headerPayloadLength
        let status ← request[headerStatus]?
        let flags ← request[headerFlags]?
        if status ≠ 0 ∨ flags ≠ 0 ∨ declaredPayloadLength.toNat ≠ request.length - headerSize then
          finishEmpty cfg device session opcode requestId response .invalidValue
        else
          dispatch cfg device session opcode requestId response platform (request.drop headerSize)

end Thermometer.Firmware
