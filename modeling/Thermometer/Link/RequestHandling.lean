import Thermometer.Firmware.Responses
import Thermometer.Client.Protocol

-- The firmware answers every byte string inside its buffers, and the Python client
-- accepts the answer as a packet.
namespace Thermometer.Link
open Memory Wire Struct Firmware
open Client.Protocol (ProtocolConfig Response parseResponse checkResponse unpackLayout header)

-- What the shared file says about its numbers: the flag is 1, the chunk limits are 32
-- and 72. One local array serves both forms of a chunk.
structure SharedValues (cfg : FirmwareConfig) : Prop where
  flag : cfg.responseFlag ≠ 0
  positive : 0 < cfg.maxHistoryRecords
  shorter : cfg.maxHistoryRecords ≤ cfg.maxCompactHistoryRecords

def clientConfig (cfg : FirmwareConfig) : ProtocolConfig where
  protocolVersion := cfg.auth.protocolVersion
  responseFlag := cfg.responseFlag
  maxHistoryRecordsPerChunk := cfg.maxHistoryRecords
  maxCompactHistoryRecordsPerChunk := cfg.maxCompactHistoryRecords
  domainSeparator := String.ofList (cfg.auth.domain.map fun byte => Char.ofNat byte.toNat)

variable {cfg : FirmwareConfig} {device : Device cfg} {session : ProtocolSession} {opcode : UInt8}
  {requestId : UInt16} {capacity : Nat} {payload : List UInt8} {platform : Platform}

theorem chunkBytes_length (compact : Bool) (sensorId : UInt8) (startSequence : UInt32) (records : List HistoryRecord) :
    (chunkBytes compact sensorId startSequence records).length =
      historyChunkPrefixSize + records.length * chunkRecordSize compact := by
  simp [chunkBytes,historyChunkPrefixSize]
  omega

theorem chunkRecordSize_le (compact : Bool) : chunkRecordSize compact ≤ 7 := by cases compact <;> decide

-- A requested count is one byte, so no payload comes near the limit of its length field.
theorem answerChunk_small (compact : Bool) (sensorId : UInt8) (startSequence : UInt32) (requested : UInt8) :
    (answerChunk capacity device session compact sensorId startSequence requested).payload.length < 65536 := by
  unfold answerChunk
  split
  · simp
  · split
    · simp
    · split
      · simp
      · split
        · simp
        · rename_i records copied
          have count := (copyHistory_length copied).1.trans (chunkLimit_requested cfg capacity compact requested)
          have byte := requested.toNat_lt
          have product := Nat.mul_le_mul (count.trans (Nat.le_of_lt_succ byte)) (chunkRecordSize_le compact)
          rw [chunkBytes_length]
          simp only [historyChunkPrefixSize]
          omega

theorem answerDispatch_small (opcode : UInt8) (payload : List UInt8) :
    (answerDispatch capacity device session opcode platform payload).payload.length < 65536 := by
  have chunk (payload : List UInt8) (compact : Bool) :
      (answerGetHistoryChunk capacity device session payload compact).payload.length < 65536 := by
    unfold answerGetHistoryChunk
    split
    · exact answerChunk_small compact _ _ _
    · simp
  have authenticated (opcode : UInt8) (payload : List UInt8) :
      (answerAuthenticated capacity device session opcode payload).payload.length < 65536 := by
    unfold answerAuthenticated
    split
    · split
      · simp
      · unfold answerGetCurrent
        split <;> simp [currentBytes,sensorBytes]
    · unfold answerSetDisplay
      repeat' split
      all_goals simp [displayBytes]
    · split
      · simp
      · unfold answerGetHistoryMeta
        split <;> simp [metaBytes]
    · exact chunk payload false
    · exact chunk payload true
    · split <;> simp
    · simp
  unfold answerDispatch
  split
  · split
    · simp
    · unfold answerAuthBegin
      dsimp only
      repeat' split
      all_goals simp [challengeBytes]
  · unfold answerAuthProve
    split <;> simp
  · split
    · exact authenticated _ _
    · simp

theorem answer_small (request : List UInt8) : (answer capacity device session platform request).payload.length < 65536 := by
  unfold answer
  split
  · simp
  · split
    · simp
    · split
      · simp
      · exact answerDispatch_small _ _

@[simp] theorem status_ofByte (status : Status) : Client.Protocol.Status.ofByte status.value = some status := by
  cases status <;> rfl

theorem unpack_header (opcode : UInt8) (requestId : UInt16) (status : Status) (payload : List UInt8) :
    unpack header ((packet cfg opcode requestId status payload).take headerSize) =
      some ⟨cfg.auth.protocolVersion,opcode,requestId,payload.length.toUInt16,status.value,cfg.responseFlag⟩ := by
  have front : (packet cfg opcode requestId status payload).take headerSize =
      cfg.auth.protocolVersion :: opcode :: (u16Bytes requestId ++ (u16Bytes payload.length.toUInt16 ++
        [status.value,cfg.responseFlag])) := rfl
  rw [front]
  apply unpack_run
  simp [header]

theorem packet_drop (opcode : UInt8) (requestId : UInt16) (status : Status) (payload : List UInt8) :
    (packet cfg opcode requestId status payload).drop headerSize = payload := rfl

theorem packet_requestId (opcode : UInt8) (requestId : UInt16) (status : Status) (payload : List UInt8) :
    readU16 (packet cfg opcode requestId status payload) headerRequestId = some requestId := by
  show some (_ ||| _) = _
  rw [u16_join]

theorem packet_payloadLength (opcode : UInt8) (requestId : UInt16) (status : Status) (payload : List UInt8) :
    readU16 (packet cfg opcode requestId status payload) headerPayloadLength = some payload.length.toUInt16 := by
  show some (_ ||| _) = _
  rw [u16_join]

theorem parseResponse_packet (flag : cfg.responseFlag ≠ 0) (name : Opcode) (known : Opcode.ofByte opcode = some name)
    (small : payload.length < 65536) (status : Status) (expectedOpcode : Option Opcode) (expectedRequestId : Option UInt16)
    (allowError : Bool) :
    parseResponse (clientConfig cfg) (packet cfg opcode requestId status payload) expectedOpcode expectedRequestId allowError =
      checkResponse (clientConfig cfg) expectedOpcode expectedRequestId allowError
        ⟨cfg.auth.protocolVersion,name,requestId,status,payload⟩ := by
  have long : ¬ (packet cfg opcode requestId status payload).length < headerSize := by simp
  unfold parseResponse
  rw [if_neg long,packet_drop]
  simp [unpackLayout,unpack_header,clientConfig,flag,known,bind,Except.bind,Nat.mod_eq_of_lt small]

@[simp] theorem opcode_ofByte (opcode : Opcode) : Opcode.ofByte opcode.value = some opcode := by
  cases opcode <;> rfl

-- What `parse_response` makes of the answer to a packet that names itself.
def accept (version : UInt8) (opcode : Opcode) (requestId : UInt16) (status : Status) (payload : List UInt8) :
    Except Client.Failure Response :=
  if status = .success then .ok ⟨version,opcode,requestId,.success,payload⟩
  else .error (.protocol s!"ESP32 returned {Client.Protocol.Status.name status}" (some status))

theorem parseResponse_own (flag : cfg.responseFlag ≠ 0) (opcode : Opcode) (requestId : UInt16) (status : Status)
    (small : payload.length < 65536) :
    parseResponse (clientConfig cfg) (packet cfg opcode.value requestId status payload) (some opcode) (some requestId) false =
      accept cfg.auth.protocolVersion opcode requestId status payload := by
  rw [parseResponse_packet flag opcode (opcode_ofByte opcode) small]
  by_cases success : status = .success <;>
    simp [checkResponse,clientConfig,accept,success,Client.Protocol.protocolError]

theorem request_accepted (values : SharedValues cfg) (room : headerSize ≤ capacity) (device : Device cfg)
    (session : ProtocolSession) (response : Vector UInt8 capacity) (platform : Platform) {name : Opcode}
    (named : echo request = (name.value,requestId)) :
    ∃ outcome, processRequest cfg device session response platform request = some outcome ∧
      let answered := answer capacity device session platform request
      outcome.session = answered.session ∧ outcome.device = answered.device ∧
      let raw := outcome.reply.buffer.toList.take outcome.reply.length
      raw[headerStatus]? = some answered.status.value ∧
      parseResponse (clientConfig cfg) raw (some name) (some requestId) false =
        accept cfg.auth.protocolVersion name requestId answered.status answered.payload := by
  have replied : Replies (echo request).1 (echo request).2
      (processRequest cfg device session response platform request) (answer capacity device session platform request) :=
    processRequest_replies room values.shorter request
  obtain ⟨reply,processed,carries⟩ := replied
  rw [named] at carries
  refine ⟨_,processed,rfl,rfl,?_⟩
  dsimp only
  rw [carries.content]
  exact ⟨rfl,parseResponse_own values.flag name requestId _ (answer_small request)⟩

-- Every byte string is answered, inside both buffers: the first part is the absence of a
-- fault in the model, where each access to a buffer is checked.
theorem request_handling (values : SharedValues cfg) (room : headerSize ≤ capacity) (device : Device cfg)
    (session : ProtocolSession) (response : Vector UInt8 capacity) (platform : Platform) (request : List UInt8) :
    ∃ outcome, processRequest cfg device session response platform request = some outcome ∧
      headerSize ≤ outcome.reply.length ∧ outcome.reply.length ≤ capacity ∧
      let bytes := outcome.reply.buffer.toList.take outcome.reply.length
      bytes.length = outcome.reply.length ∧ bytes[headerVersion]? = some cfg.auth.protocolVersion ∧
      (∀ opcode, request[headerOpcode]? = some opcode → bytes[headerOpcode]? = some opcode) ∧
      (∀ requestId, readU16 request headerRequestId = some requestId → readU16 bytes headerRequestId = some requestId) ∧
      bytes[headerFlags]? = some cfg.responseFlag ∧
      (readU16 bytes headerPayloadLength).map UInt16.toNat = some (outcome.reply.length - headerSize) ∧
      ∀ opcode, (bytes[headerOpcode]?).bind Opcode.ofByte = some opcode →
        ∃ parsed, parseResponse (clientConfig cfg) bytes none none true = .ok parsed ∧ parsed.opcode = opcode ∧
          parsed.payload = bytes.drop headerSize := by
  have replied : Replies (echo request).1 (echo request).2
      (processRequest cfg device session response platform request) (answer capacity device session platform request) :=
    processRequest_replies room values.shorter request
  have small : (answer capacity device session platform request).payload.length < 65536 := answer_small request
  generalize answer capacity device session platform request = answered at *
  obtain ⟨reply,processed,carries⟩ := replied
  have length : reply.length = headerSize + answered.payload.length := by simpa using carries.length
  refine ⟨_,processed,?_,?_,?_⟩
  · dsimp only
    omega
  · exact carries.length ▸ carries.inside
  · dsimp only
    rw [carries.content]
    refine ⟨carries.length.symm,rfl,?_,?_,rfl,?_,?_⟩
    · intro opcode present
      simp [packet,echo,present]
    · intro requestId present
      rw [packet_requestId,echo,present]
      rfl
    · rw [packet_payloadLength,length]
      simp [Nat.mod_eq_of_lt small]
    · intro opcode known
      rw [parseResponse_packet values.flag opcode known small]
      exact ⟨⟨cfg.auth.protocolVersion,opcode,(echo request).2,answered.status,answered.payload⟩,
        by simp [checkResponse,clientConfig],rfl,rfl⟩

-- The firmware that the shared file describes, but for its passkey and its MAC.
def shippedConfig (passkey : List UInt8) (psaMac : List UInt8 → List UInt8 → Option (List UInt8)) : FirmwareConfig where
  device := ⟨⟨300,by decide,by decide⟩,1,1,Nat.one_pos,Nat.one_pos⟩
  auth :=
    { domain := [84,72,69,82,77,79,77,69,84,69,82,45,65,85,84,72,45,86,50]
      passkey := passkey
      protocolVersion := 2
      challengeTimeoutMs := 5000
      maxFailures := 3
      lockoutMs := 30000
      psaMac := psaMac }
  responseFlag := 1
  maxHistoryRecords := 32
  maxCompactHistoryRecords := 72

theorem shippedConfig_values (passkey : List UInt8) (psaMac : List UInt8 → List UInt8 → Option (List UInt8)) :
    SharedValues (shippedConfig passkey psaMac) := ⟨by simp [shippedConfig],by simp [shippedConfig],by simp [shippedConfig]⟩

-- A truncated request and a response buffer with room for the header only.
theorem request_handling_truncated :
    ∃ outcome, processRequest (shippedConfig [] fun _ _ => none) ⟨start _ 7,.cleared⟩ .zeroed
        (Vector.replicate 8 0) ⟨0,.replicate 16 0⟩ [2,1,9] = some outcome ∧ outcome.reply.length = 8 := by
  obtain ⟨outcome,processed,least,most,_⟩ := request_handling (shippedConfig_values [] fun _ _ => none)
    (by decide) ⟨start _ 7,.cleared⟩ .zeroed (Vector.replicate 8 0) ⟨0,.replicate 16 0⟩ [2,1,9]
  exact ⟨outcome,processed,Nat.le_antisymm most least⟩

end Thermometer.Link
