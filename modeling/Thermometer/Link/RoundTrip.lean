import Thermometer.Link.RequestHandling
import Thermometer.Firmware.Authentication

-- What the client decodes from a response is what the firmware encoded.
namespace Thermometer.Link
open Memory Wire Struct Firmware Wrapping
open Client (HistoryRecordValue HistoryChunk)
open Client.Protocol (ProtocolConfig Response parseResponse checkResponse unpackLayout centigrade)

variable {cfg : FirmwareConfig} {capacity : Nat}

def Numbered {cfg : DeviceConfig} (s : State cfg) : Prop :=
  ∀ i, (∃ latest, Consecutive latest (s.sensors i).history) ∧ ∃ latest, Consecutive latest (s.historySnapshot i)

theorem run_numbered (cfg : DeviceConfig) (bootId : UInt32) (events : List Event) :
    Numbered (run (start cfg bootId) events) := by
  have general : ∀ (events : List Event) (s : State cfg), RingsConsecutive s → Numbered s →
      Numbered (run s events) := by
    intro events
    induction events with
    | nil => exact fun _ _ numbered => numbered
    | cons event rest ih =>
      intro s rings numbered
      refine ih (step s event) (step_consecutive rings event) fun i => ⟨⟨_,step_consecutive rings event i⟩,?_⟩
      by_cases frozen : event = .getHistoryMeta
      · subst frozen
        exact ⟨_,rings i⟩
      · rw [(step_frozen s event frozen).1]
        exact (numbered i).2
  exact general events _ (fun _ => init_consecutive) fun _ => ⟨⟨0,init_consecutive⟩,⟨0,init_consecutive⟩⟩

theorem copy_numbered {c : Capacity} {buffer : HistoryBuffer c} (held : Consecutive latest buffer)
    (copied : buffer.copy startSequence count = some records) (inside : i < records.length) :
    records[i].sequence = startSequence + UInt32.ofNat i := by
  obtain ⟨oldest,sequences,_⟩ := held
  have spec := buffer.copy_contents startSequence count
  dsimp only at spec
  rw [copied] at spec
  split at spec
  · cases spec
  · rename_i present
    simp only [not_or] at present
    have bound : buffer.contents.findIdx (·.sequence == startSequence) ≤ buffer.contents.length := List.findIdx_le_length
    have found : buffer.contents.findIdx (·.sequence == startSequence) < buffer.contents.length := by omega
    have first := List.findIdx_getElem (w := found)
    generalize buffer.contents.findIdx (·.sequence == startSequence) = offset at *
    cases Option.some.inj spec
    simp only [List.length_take,List.length_drop] at inside
    have number : ∀ (k : Nat) (h : k < buffer.contents.length), buffer.contents[k].sequence.toNat = (oldest + k) % 2 ^ 32 := by
      intro k h
      have entry := congrArg (fun numbers => numbers[k]?) sequences
      have inSpan : k < (span (2 ^ 32) oldest buffer.count.toNat).length := by simpa using h
      simpa only [List.getElem?_map,List.getElem?_eq_getElem h,List.getElem?_eq_getElem inSpan,Option.map_some,
        Option.some.injEq,span_getElem] using entry
    have start : startSequence.toNat = (oldest + offset) % 2 ^ 32 := by
      rw [← number offset found,beq_iff_eq.mp first]
    apply UInt32.toNat_inj.mp
    rw [List.getElem_take,List.getElem_drop,number (offset + i) (by omega),UInt32.toNat_add,start]
    simp [Nat.add_assoc]

theorem copyHistory_numbered {cfg : DeviceConfig} {s : State cfg} (numbered : Numbered s)
    (copied : copyHistory s sensorId startSequence count = some records) (inside : i < records.length) :
    records[i].sequence = startSequence + UInt32.ofNat i := by
  unfold copyHistory at copied
  split at copied
  · cases copied
  · rename_i index _
    split at copied
    · obtain ⟨latest,held⟩ := (numbered index).2
      exact copy_numbered held copied inside
    · obtain ⟨latest,held⟩ := (numbered index).1
      exact copy_numbered held copied inside

def visibleOf : VisibleState → Client.Protocol.VisibleState
  | .off => .off | .on => .on | .disconnected => .disconnected

def sensorValue (sensorId : Nat) (sensor : SensorSnapshot) : Client.Protocol.SensorSnapshot where
  sensorId := sensorId
  temperatureC := if sensor.dataStatus = .valid then some (centigrade sensor.temperatureCentiC) else none
  visibleState := visibleOf (visibleState sensor)
  displayEnabled := sensor.displayEnabled

def currentValue (snapshot : CurrentSnapshot) : Client.Protocol.CurrentSnapshot where
  bootId := snapshot.bootId
  newestSequence := snapshot.newestSequence
  sensors := [sensorValue 1 (snapshot.sensors 0),sensorValue 2 (snapshot.sensors 1)]
  averageC := if snapshot.averageValid then some (centigrade snapshot.averageCentiC) else none

def displayValue (sensorId : UInt8) (sensor : SensorSnapshot) : Client.Protocol.DisplayResult :=
  ⟨sensorId,visibleOf (visibleState sensor),sensor.displayEnabled⟩

def metaValue (answer : HistoryMeta) : Client.HistoryMeta :=
  ⟨answer.bootId,answer.newestSequence,answer.counts,answer.oldestSequences⟩

def recordValue (record : HistoryRecord) : HistoryRecordValue where
  sequence := record.sequence
  temperatureC := if record.dataStatus = .valid then some (centigrade record.temperatureCentiC) else none
  dataStatus := record.dataStatus

def chunkValue (sensorId : UInt8) (startSequence : UInt32) (records : List HistoryRecord) : HistoryChunk :=
  ⟨sensorId.toNat,startSequence,records.map recordValue⟩

@[simp] theorem visibleState_ofByte (state : VisibleState) :
    Client.Protocol.VisibleState.ofByte (visibleValue state) = some (visibleOf state) := by
  cases state <;> rfl

@[simp] theorem dataStatus_ofByte (status : DataStatus) : Client.Protocol.DataStatus.ofByte status.value = some status := by
  cases status <;> rfl

@[simp] theorem flagByte_binary (flag : Bool) : ¬ (flagByte flag ≠ 0 ∧ flagByte flag ≠ 1) := by
  cases flag <;> decide

@[simp] theorem flagByte_ne (flag : Bool) : decide (flagByte flag ≠ 0) = flag := by
  cases flag <;> rfl

@[simp] theorem visibleOf_disconnected (sensor : SensorSnapshot) :
    visibleOf (visibleState sensor) = .disconnected ↔ sensor.dataStatus ≠ .valid := by
  unfold visibleState sensorIsAvailable
  cases sensor.dataStatus <;> cases sensor.displayEnabled <;> decide

theorem decodeSensor_bytes (sensorId : Nat) (sensor : SensorSnapshot) :
    Client.Protocol.decodeSensor sensorId
        ⟨sensor.temperatureCentiC,visibleValue (visibleState sensor),flagByte sensor.displayEnabled⟩ =
      .ok (sensorValue sensorId sensor) := by
  unfold Client.Protocol.decodeSensor
  rw [visibleState_ofByte]
  dsimp only
  rw [if_neg (flagByte_binary _)]
  unfold sensorValue
  simp only [visibleOf_disconnected,flagByte_ne,ne_eq,ite_not]

theorem decodeCurrent_bytes (version : UInt8) (requestId : UInt16) (status : Status) (snapshot : CurrentSnapshot) :
    Client.Protocol.decodeCurrent ⟨version,.getCurrent,requestId,status,currentBytes snapshot⟩ =
      .ok (currentValue snapshot) := by
  have unpacked : unpack Client.Protocol.currentResponse (currentBytes snapshot) =
      some ⟨snapshot.bootId,snapshot.newestSequence,
        [⟨(snapshot.sensors 0).temperatureCentiC,visibleValue (visibleState (snapshot.sensors 0)),
          flagByte (snapshot.sensors 0).displayEnabled⟩,
         ⟨(snapshot.sensors 1).temperatureCentiC,visibleValue (visibleState (snapshot.sensors 1)),
          flagByte (snapshot.sensors 1).displayEnabled⟩],
        snapshot.averageCentiC,flagByte snapshot.averageValid,0⟩ := by
    apply unpack_run
    simp [Client.Protocol.currentResponse,Client.Protocol.sensorFields,currentBytes,sensorBytes]
  unfold Client.Protocol.decodeCurrent
  rw [if_neg (by simp)]
  simp only [unpackLayout,unpacked,bind,Except.bind,Client.Protocol.decodeSensors,decodeSensor_bytes]
  rw [if_neg (by simp)]
  cases valid : snapshot.averageValid <;> simp [currentValue,valid,flagByte]

theorem decodeDisplayResult_bytes (version : UInt8) (requestId : UInt16) (status : Status) {sensorId : UInt8}
    (known : ¬ (sensorId = 0 ∨ sensorCount < sensorId.toNat)) (outcome : DisplayOutcome) :
    Client.Protocol.decodeDisplayResult ⟨version,.setDisplay,requestId,status,displayBytes sensorId outcome⟩ =
      .ok ⟨sensorId,visibleOf outcome.resultingState,outcome.resultingEnabled⟩ := by
  have unpacked : unpack Client.Protocol.setDisplayResponse (displayBytes sensorId outcome) =
      some (sensorId,visibleValue outcome.resultingState,flagByte outcome.resultingEnabled) := rfl
  have valid : Client.Protocol.validateSensorId sensorId.toNat = .ok () := by
    have positive : sensorId.toNat ≠ 0 := fun zero => known (.inl (UInt8.toNat_inj.mp zero))
    unfold Client.Protocol.validateSensorId
    rw [if_neg (by simp only [not_or,not_lt] at known ⊢; omega)]
  unfold Client.Protocol.decodeDisplayResult
  rw [if_neg (by simp)]
  simp only [unpackLayout,unpacked,valid,bind,Except.bind]
  rw [if_neg (flagByte_binary _),visibleState_ofByte]
  simp only [flagByte_ne]

theorem decodeHistoryMeta_bytes (version : UInt8) (requestId : UInt16) (status : Status) (answer : HistoryMeta) :
    Client.Protocol.decodeHistoryMeta ⟨version,.getHistoryMeta,requestId,status,metaBytes answer⟩ =
      .ok (metaValue answer) := by
  have unpacked : unpack Client.Protocol.historyMetaResponse (metaBytes answer) = some (metaValue answer) := by
    apply unpack_run
    have counts : ![answer.counts 0,answer.counts 1] = answer.counts := List.ofFn_inj.mp rfl
    have oldest : ![answer.oldestSequences 0,answer.oldestSequences 1] = answer.oldestSequences := List.ofFn_inj.mp rfl
    simp [Client.Protocol.historyMetaResponse,metaBytes,metaValue,counts,oldest]
  unfold Client.Protocol.decodeHistoryMeta
  rw [if_neg (by simp)]
  simp only [unpackLayout,unpacked]

theorem mapM_ok {ε α β : Type} {f : α → Except ε β} {g : α → β} {xs : List α} (all : ∀ x ∈ xs, f x = .ok (g x)) :
    xs.mapM f = .ok (xs.map g) := by
  induction xs with
  | nil => rfl
  | cons x rest ih =>
    rw [List.mapM_cons,all x (by simp),ih fun y member => all y (List.mem_cons_of_mem _ member)]
    rfl

theorem flatMap_slice {compact : Bool} {records : List HistoryRecord} (inside : i < records.length) :
    ((records.flatMap (encodeRecord compact)).drop (i * chunkRecordSize compact)).take (chunkRecordSize compact) =
      encodeRecord compact records[i] := by
  induction records generalizing i with
  | nil => cases inside
  | cons record rest ih =>
    cases i with
    | zero =>
      rw [Nat.zero_mul,List.drop_zero,List.flatMap_cons]
      exact List.take_left' encodeRecord_length
    | succ i =>
      have skip : (i + 1) * chunkRecordSize compact = (encodeRecord compact record).length + i * chunkRecordSize compact := by
        rw [encodeRecord_length,Nat.succ_mul,Nat.add_comm]
      rw [List.flatMap_cons,skip,List.drop_append,List.drop_eq_nil_of_le (by omega),List.nil_append,Nat.add_sub_cancel_left]
      exact ih (by simpa using inside)

theorem decodeRecord_bytes {compact : Bool} {sensorId : UInt8} {startSequence : UInt32} {records : List HistoryRecord}
    (inside : i < records.length) (numbered : records[i].sequence = startSequence + UInt32.ofNat i) :
    Client.Protocol.decodeRecord compact startSequence (chunkBytes compact sensorId startSequence records) i =
      .ok (recordValue records[i]) := by
  have slice : ((chunkBytes compact sensorId startSequence records).drop
      (historyChunkPrefixSize + i * chunkRecordSize compact)).take (chunkRecordSize compact) =
        encodeRecord compact records[i] := by
    rw [← flatMap_slice inside,← List.drop_drop]
    rfl
  unfold Client.Protocol.decodeRecord
  cases compact with
  | false =>
    have unpacked : unpack Client.Protocol.historyRecord (encodeRecord false records[i]) =
        some ⟨some records[i].sequence,records[i].temperatureCentiC,records[i].dataStatus.value⟩ := by
      apply unpack_run
      simp [Client.Protocol.historyRecord,encodeRecord]
    simp only [Client.Protocol.recordLayout,Bool.false_eq_true,if_false]
    rw [show historyRecordSize = chunkRecordSize false from rfl,slice]
    simp [unpackLayout,unpacked,bind,Except.bind,recordValue]
  | true =>
    have unpacked : unpack Client.Protocol.compactHistoryRecord (encodeRecord true records[i]) =
        some ⟨none,records[i].temperatureCentiC,records[i].dataStatus.value⟩ := by
      apply unpack_run
      simp [Client.Protocol.compactHistoryRecord,encodeRecord]
    simp only [Client.Protocol.recordLayout,if_true]
    rw [show compactHistoryRecordSize = chunkRecordSize true from rfl,slice]
    simp [unpackLayout,unpacked,bind,Except.bind,recordValue,numbered]

theorem decodeHistoryChunk_bytes (compact : Bool) (version : UInt8) (requestId : UInt16) (status : Status)
    {sensorId : UInt8} (known : ¬ (sensorId = 0 ∨ sensorCount < sensorId.toNat)) (startSequence : UInt32)
    {records : List HistoryRecord} (few : records.length < 256)
    (numbered : ∀ (i : Nat) (h : i < records.length), records[i].sequence = startSequence + UInt32.ofNat i) :
    Client.Protocol.decodeHistoryChunk ⟨version,Client.Protocol.chunkOpcode compact,requestId,status,
        chunkBytes compact sensorId startSequence records⟩ =
      .ok (chunkValue sensorId startSequence records) := by
  have unpacked : unpack Client.Protocol.historyChunkPrefix
      ((chunkBytes compact sensorId startSequence records).take historyChunkPrefixSize) =
        some ⟨sensorId,startSequence,records.length.toUInt8,(chunkRecordSize compact).toUInt8⟩ := by
    have front : (chunkBytes compact sensorId startSequence records).take historyChunkPrefixSize =
        sensorId :: (u32Bytes startSequence ++ [records.length.toUInt8,(chunkRecordSize compact).toUInt8]) := rfl
    rw [front]
    apply unpack_run
    simp [Client.Protocol.historyChunkPrefix]
  have count : records.length.toUInt8.toNat = records.length := by
    simp
    omega
  have decoded : (List.range records.length).mapM (Client.Protocol.decodeRecord compact startSequence
      (chunkBytes compact sensorId startSequence records)) = .ok (records.map recordValue) := by
    rw [mapM_ok (g := fun i => (records[i]?).elim ⟨0,none,.valid⟩ recordValue)]
    · congr 1
      apply List.ext_getElem
      · simp
      · intro i left right
        have inside : i < records.length := by simpa using right
        simp [inside]
    · intro i member
      have inside := List.mem_range.mp member
      rw [decodeRecord_bytes inside (numbered i inside)]
      simp [inside]
  have opcode : decide (Client.Protocol.chunkOpcode compact = .getHistoryChunkCompact) = compact := by
    cases compact <;> rfl
  have size : (Client.Protocol.recordLayout compact).2.1 = chunkRecordSize compact := by cases compact <;> rfl
  have width : (chunkRecordSize compact).toUInt8.toNat = chunkRecordSize compact := by cases compact <;> rfl
  unfold Client.Protocol.decodeHistoryChunk
  rw [if_neg (by cases compact <;> simp [Client.Protocol.chunkOpcode])]
  dsimp only
  rw [opcode,size,if_neg (by rw [chunkBytes_length]; omega)]
  simp only [unpackLayout,unpacked,bind,Except.bind]
  rw [if_neg known,width,if_neg (by simp),count,chunkBytes_length,if_neg (by simp),decoded]
  rfl

inductive ClientRequest where
  | getCurrent
  | setDisplay (sensorId : Int) (enabled : Bool)
  | getHistoryMeta
  | getHistoryChunk (sensorId startSequence count : Int) (compact : Bool)

inductive ClientAnswer where
  | current (snapshot : Client.Protocol.CurrentSnapshot)
  | display (result : Client.Protocol.DisplayResult)
  | historyMeta (answer : Client.HistoryMeta)
  | historyChunk (chunk : HistoryChunk)

namespace ClientRequest

def opcode : ClientRequest → Opcode
  | .getCurrent => .getCurrent
  | .setDisplay _ _ => .setDisplay
  | .getHistoryMeta => .getHistoryMeta
  | .getHistoryChunk _ _ _ compact => Client.Protocol.chunkOpcode compact

def build (cfg : ProtocolConfig) (requestId : Int) : ClientRequest → Except Client.Failure (List UInt8)
  | .getCurrent => Client.Protocol.buildRequest cfg .getCurrent requestId []
  | .setDisplay sensorId enabled => Client.Protocol.buildSetDisplayRequest cfg requestId sensorId enabled
  | .getHistoryMeta => Client.Protocol.buildRequest cfg .getHistoryMeta requestId []
  | .getHistoryChunk sensorId startSequence count compact =>
    Client.Protocol.buildHistoryChunkRequest cfg requestId sensorId startSequence count compact

def decode (response : Response) : ClientRequest → Except Client.Failure ClientAnswer
  | .getCurrent => .current <$> Client.Protocol.decodeCurrent response
  | .setDisplay _ _ => .display <$> Client.Protocol.decodeDisplayResult response
  | .getHistoryMeta => .historyMeta <$> Client.Protocol.decodeHistoryMeta response
  | .getHistoryChunk _ _ _ _ => .historyChunk <$> Client.Protocol.decodeHistoryChunk response

end ClientRequest

inductive Reports (cfg : FirmwareConfig) (capacity : Nat) (before after : State cfg.device) :
    ClientRequest → ClientAnswer → Prop where
  | current : Reports cfg capacity before after .getCurrent (.current (currentValue (currentSnapshot before)))
  | display : sensorIndex (.ofNat sensorId.toNat) = some index →
      Reports cfg capacity before after (.setDisplay sensorId enabled)
        (.display (displayValue (.ofNat sensorId.toNat) (after.sensors index).latest))
  | historyMeta : Reports cfg capacity before after .getHistoryMeta (.historyMeta (metaValue (getHistoryMeta before).1))
  | historyChunk : copyHistory before (.ofNat sensorId.toNat) (.ofNat startSequence.toNat)
        (chunkLimit cfg capacity compact (.ofNat count.toNat)) = some records →
      Reports cfg capacity before after (.getHistoryChunk sensorId startSequence count compact)
        (.historyChunk (chunkValue (.ofNat sensorId.toNat) (.ofNat startSequence.toNat) records))

def Faithful (capacity : Nat) (request : ClientRequest) (before : State cfg.device) (answered : Answer cfg) : Prop :=
  answered.status = .success → ∀ version requestId, ∃ answer,
    request.decode ⟨version,request.opcode,requestId,.success,answered.payload⟩ = .ok answer ∧
      Reports cfg capacity before answered.device.thermometer request answer

-- What `build_request` packs.
def requestPacket (version opcode : UInt8) (requestId : UInt16) (payload : List UInt8) : List UInt8 :=
  Client.Protocol.packHeader ⟨version,opcode,requestId,payload.length.toUInt16,0,0⟩ ++ payload

theorem buildRequest_ok {config : ProtocolConfig} {requestId : Int}
    (built : Client.Protocol.buildRequest config opcode requestId payload = .ok request) :
    0 ≤ requestId ∧ requestId ≤ 65535 ∧ payload.length < 65536 ∧
      request = requestPacket config.protocolVersion opcode.value (.ofNat requestId.toNat) payload := by
  unfold Client.Protocol.buildRequest at built
  split at built
  · cases built
  · split at built
    · cases built
    · cases built
      exact ⟨by omega,by omega,by omega,rfl⟩

theorem buildRequest_packet (config : ProtocolConfig) (opcode : Opcode) (requestId : UInt16) (short : payload.length < 65536) :
    Client.Protocol.buildRequest config opcode requestId.toNat payload =
      .ok (requestPacket config.protocolVersion opcode.value requestId payload) := by
  have word := requestId.toNat_lt
  unfold Client.Protocol.buildRequest
  rw [if_neg (by omega),if_neg (by omega)]
  simp [requestPacket]

theorem requestPacket_length : (requestPacket version opcode requestId payload).length = headerSize + payload.length := by
  rw [requestPacket,List.length_append]
  rfl

theorem requestPacket_echo : echo (requestPacket version opcode requestId payload) = (opcode,requestId) := by
  have identifier : readU16 (requestPacket version opcode requestId payload) headerRequestId = some requestId := by
    show some (_ ||| _) = _
    rw [u16_join]
  rw [echo,identifier]
  rfl

theorem requestPacket_wellFormed (short : payload.length < 65536) :
    wellFormed cfg (requestPacket cfg.auth.protocolVersion opcode requestId payload) = true := by
  have version : (requestPacket cfg.auth.protocolVersion opcode requestId payload)[headerVersion]? =
      some cfg.auth.protocolVersion := rfl
  have status : (requestPacket cfg.auth.protocolVersion opcode requestId payload)[headerStatus]? = some 0 := rfl
  have flags : (requestPacket cfg.auth.protocolVersion opcode requestId payload)[headerFlags]? = some 0 := rfl
  have declared : readU16 (requestPacket cfg.auth.protocolVersion opcode requestId payload) headerPayloadLength =
      some payload.length.toUInt16 := by
    show some (_ ||| _) = _
    rw [u16_join]
  rw [wellFormed,version,status,flags,declared,requestPacket_length]
  simp [Nat.mod_eq_of_lt short]

theorem answer_requestPacket (short : payload.length < 65536) (device : Device cfg) (session : ProtocolSession)
    (platform : Platform) :
    answer capacity device session platform (requestPacket cfg.auth.protocolVersion opcode requestId payload) =
      answerDispatch capacity device session opcode platform payload := by
  have version : (requestPacket cfg.auth.protocolVersion opcode requestId payload)[headerVersion]? =
      some cfg.auth.protocolVersion := rfl
  unfold answer
  rw [if_neg (by rw [requestPacket_length]; omega),if_neg (not_not.mpr version),requestPacket_wellFormed short,
    requestPacket_echo]
  rfl

variable {device : Device cfg} {session : ProtocolSession}

theorem getCurrent_faithful :
    Faithful capacity .getCurrent device.thermometer (answerGetCurrent capacity device session) := by
  unfold answerGetCurrent
  split
  · exact nofun
  · intro _ version requestId
    exact ⟨_,by rw [ClientRequest.decode,ClientRequest.opcode,decodeCurrent_bytes]; rfl,.current⟩

theorem getHistoryMeta_faithful :
    Faithful capacity .getHistoryMeta device.thermometer (answerGetHistoryMeta capacity device session) := by
  unfold answerGetHistoryMeta
  split
  · exact nofun
  · intro _ version requestId
    exact ⟨_,by rw [ClientRequest.decode,ClientRequest.opcode,decodeHistoryMeta_bytes]; rfl,.historyMeta⟩

theorem setDisplay_faithful (sensorId : Int) (enabled : Bool) :
    Faithful capacity (.setDisplay sensorId enabled) device.thermometer
      (answerSetDisplay capacity device session [.ofNat sensorId.toNat,if enabled then 1 else 0]) := by
  intro success version requestId
  generalize (if enabled then (1 : UInt8) else 0) = flag at success ⊢
  unfold answerSetDisplay at success ⊢
  dsimp only at success ⊢
  split at success
  · cases success
  · rename_i known
    rw [if_neg known]
    split at success
    · cases success
    · rename_i binary
      rw [if_neg binary]
      split at success
      · cases success
      · rename_i fits
        rw [if_neg fits]
        cases located : sensorIndex (UInt8.ofNat sensorId.toNat) with
        | none => simp [setDisplay,located] at success
        | some index =>
          refine ⟨_,?_,.display located⟩
          rw [ClientRequest.decode,ClientRequest.opcode,decodeDisplayResult_bytes version requestId _ known]
          simp only [setDisplay,located]
          rfl

theorem getHistoryChunk_faithful (numbered : Numbered device.thermometer) (sensorId startSequence count : Int)
    (compact : Bool) :
    Faithful capacity (.getHistoryChunk sensorId startSequence count compact) device.thermometer
      (answerChunk capacity device session compact (.ofNat sensorId.toNat) (.ofNat startSequence.toNat)
        (.ofNat count.toNat)) := by
  intro success version requestId
  unfold answerChunk at success ⊢
  split at success
  · cases success
  · rename_i known
    rw [if_neg known]
    split at success
    · cases success
    · rename_i positive
      rw [if_neg positive]
      split at success
      · cases success
      · rename_i fits
        rw [if_neg fits]
        split at success
        · cases success
        · rename_i records copied
          have few : records.length < 256 := by
            have bound := (copyHistory_length copied).1.trans (chunkLimit_requested cfg capacity compact _)
            have byte := (UInt8.ofNat count.toNat).toNat_lt
            omega
          refine ⟨_,?_,.historyChunk copied⟩
          rw [ClientRequest.decode,ClientRequest.opcode,decodeHistoryChunk_bytes compact version requestId _ known _ few
            fun i inside => copyHistory_numbered numbered copied inside]
          rfl

theorem answerGetHistoryChunk_request (compact : Bool) (sensorId : UInt8) (startSequence : UInt32) (requested : UInt8) :
    answerGetHistoryChunk capacity device session (Client.Protocol.chunkRequest sensorId startSequence requested) compact =
      answerChunk capacity device session compact sensorId startSequence requested := by
  show answerChunk capacity device session compact sensorId (_ ||| _) requested = _
  rw [u32_join]

theorem answerDispatch_chunk (authenticated : session.authentication.authenticated) (platform : Platform) (compact : Bool)
    (payload : List UInt8) :
    answerDispatch capacity device session (Client.Protocol.chunkOpcode compact).value platform payload =
      answerGetHistoryChunk capacity device session payload compact := by
  cases compact <;>
    simp [answerDispatch,answerAuthenticated,Client.Protocol.chunkOpcode,authenticated]

theorem request_faithful (capacity : Nat) (session : ProtocolSession) (numbered : Numbered device.thermometer)
    (authenticated : session.authentication.authenticated)
    (platform : Platform) (request : ClientRequest) {requestId : Int}
    (built : request.build (clientConfig cfg) requestId = .ok sent) :
    0 ≤ requestId ∧ requestId ≤ 65535 ∧ echo sent = (request.opcode.value,.ofNat requestId.toNat) ∧
      Faithful capacity request device.thermometer (answer capacity device session platform sent) := by
  have reached (payload : List UInt8)
      (made : Client.Protocol.buildRequest (clientConfig cfg) request.opcode requestId payload = .ok sent)
      (faithful : Faithful capacity request device.thermometer
        (answerDispatch capacity device session request.opcode.value platform payload)) :
      0 ≤ requestId ∧ requestId ≤ 65535 ∧ echo sent = (request.opcode.value,.ofNat requestId.toNat) ∧
        Faithful capacity request device.thermometer (answer capacity device session platform sent) := by
    obtain ⟨low,high,short,rfl⟩ := buildRequest_ok made
    refine ⟨low,high,requestPacket_echo,?_⟩
    rw [clientConfig,answer_requestPacket short]
    exact faithful
  cases request with
  | getCurrent =>
    refine reached [] built ?_
    simp only [answerDispatch,answerAuthenticated,ClientRequest.opcode,opcode_ofByte,authenticated]
    exact getCurrent_faithful
  | setDisplay sensorId enabled =>
    simp only [ClientRequest.build,Client.Protocol.buildSetDisplayRequest,bind,Except.bind] at built
    split at built
    · cases built
    · refine reached _ built ?_
      simp only [answerDispatch,answerAuthenticated,ClientRequest.opcode,opcode_ofByte,authenticated]
      exact setDisplay_faithful sensorId enabled
  | getHistoryMeta =>
    refine reached [] built ?_
    simp only [answerDispatch,answerAuthenticated,ClientRequest.opcode,opcode_ofByte,authenticated]
    exact getHistoryMeta_faithful
  | getHistoryChunk sensorId startSequence count compact =>
    simp only [ClientRequest.build,Client.Protocol.buildHistoryChunkRequest,bind,Except.bind] at built
    split at built
    · cases built
    · split at built
      · cases built
      · split at built
        · cases built
        · refine reached _ built ?_
          rw [ClientRequest.opcode,answerDispatch_chunk authenticated,answerGetHistoryChunk_request]
          exact getHistoryChunk_faithful numbered sensorId startSequence count compact

-- `_exchange_packet` behind its read: the response to a request that names itself.
def ClientRequest.receive (config : ProtocolConfig) (request : ClientRequest) (requestId : Int) (raw : List UInt8) :
    Except Client.Failure ClientAnswer := do
  let response ← parseResponse config raw (some request.opcode) (some (.ofNat requestId.toNat)) false
  request.decode response

-- Whatever the device has seen, a request of the client is answered with an error that
-- the caller gets with its status, or with the values of the firmware.
theorem wire_round_trip (values : SharedValues cfg) (device : Device cfg) (bootId : UInt32) (events : List Event)
    (reached : device.thermometer = run (start cfg.device bootId) events) (session : ProtocolSession)
    (authenticated : session.authentication.authenticated = true) (response : Vector UInt8 cfg.maxPacketSize)
    (platform : Platform) (request : ClientRequest) (requestId : Int) (sent : List UInt8)
    (built : request.build (clientConfig cfg) requestId = .ok sent) :
    ∃ outcome status, processRequest cfg device session response platform sent = some outcome ∧
      let raw := outcome.reply.buffer.toList.take outcome.reply.length
      raw[headerStatus]? = some status.value ∧
      (status ≠ .success → request.receive (clientConfig cfg) requestId raw =
        .error (.protocol s!"ESP32 returned {Client.Protocol.Status.name status}" (some status))) ∧
      (status = .success → ∃ parsed answer,
        parseResponse (clientConfig cfg) raw (some request.opcode) (some (.ofNat requestId.toNat)) false = .ok parsed ∧
        parsed.opcode = request.opcode ∧ (parsed.requestId.toNat : Int) = requestId ∧
        request.receive (clientConfig cfg) requestId raw = .ok answer ∧
        Reports cfg cfg.maxPacketSize device.thermometer outcome.device.thermometer request answer) := by
  have numbered : Numbered device.thermometer := reached ▸ run_numbered cfg.device bootId events
  obtain ⟨low,high,echoed,faithful⟩ := request_faithful cfg.maxPacketSize session numbered authenticated
    platform request built
  obtain ⟨outcome,processed,_,changed,stated,parsed⟩ := request_accepted values (maxPacketSize_header cfg) device session
    response platform echoed
  generalize answer cfg.maxPacketSize device session platform sent = answered at *
  refine ⟨outcome,answered.status,processed,stated,?_,?_⟩
  · intro failed
    simp only [ClientRequest.receive,parsed,accept,if_neg failed,bind,Except.bind]
  · intro success
    rw [accept,if_pos success] at parsed
    obtain ⟨answer,decoded,reports⟩ := faithful success cfg.auth.protocolVersion (.ofNat requestId.toNat)
    refine ⟨_,answer,parsed,rfl,?_,?_,changed ▸ reports⟩
    · simp
      omega
    · simpa only [ClientRequest.receive,parsed,bind,Except.bind] using decoded

def frost : List Event := [.reading 0 ⟨true,-1234⟩,.tick,.tick]

def frostConfig : FirmwareConfig := shippedConfig [] fun _ _ => none

def frostDevice : Device frostConfig := ⟨run (start _ 7) frost,.cleared⟩

def openSession : ProtocolSession := ⟨{ AuthSession.zeroed with authenticated := true },false⟩

theorem wire_round_trip_frost :
    ∃ outcome status, processRequest frostConfig frostDevice openSession
        (Vector.replicate frostConfig.maxPacketSize 0) ⟨0,.replicate 16 0⟩ [2,4,57,48,6,0,0,0,1,1,0,0,0,32] = some outcome ∧
      (outcome.reply.buffer.toList.take outcome.reply.length)[headerStatus]? = some (Wire.Status.value status) := by
  obtain ⟨outcome,status,processed,stated,_⟩ := wire_round_trip (shippedConfig_values [] fun _ _ => none) frostDevice 7
    frost rfl openSession rfl (Vector.replicate frostConfig.maxPacketSize 0) ⟨0,.replicate 16 0⟩ (.getHistoryChunk 1 1 32 false) 12345
    [2,4,57,48,6,0,0,0,1,1,0,0,0,32] rfl
  exact ⟨outcome,status,processed,stated⟩

example : (currentValue (currentSnapshot frostDevice.thermometer)).sensors.map (·.temperatureC) =
    [some (-1234 / 100),none] := by
  decide +kernel

end Thermometer.Link
