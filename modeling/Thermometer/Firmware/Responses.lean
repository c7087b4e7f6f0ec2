import Thermometer.Firmware.RequestEffects

-- What a request is answered with, as bytes: the handlers above their buffers. Every
-- handler stays inside the two buffers and leaves its answer at the front of the response.
namespace Thermometer.Firmware
open Memory Wire

variable {cfg : FirmwareConfig} {device : Device cfg} {session : ProtocolSession} {opcode : UInt8}
  {requestId : UInt16} {capacity : Nat} {response : Vector UInt8 capacity} {payload : List UInt8}
  {platform : Platform}

def packet (cfg : FirmwareConfig) (opcode : UInt8) (requestId : UInt16) (status : Status) (payload : List UInt8) :
    List UInt8 :=
  [cfg.auth.protocolVersion,opcode] ++ u16Bytes requestId ++ u16Bytes payload.length.toUInt16 ++
    [status.value,cfg.responseFlag] ++ payload

@[simp] theorem packet_length : (packet cfg opcode requestId status payload).length = headerSize + payload.length := by
  simp [packet,headerSize]
  omega

structure Carries (reply : Reply capacity) (bytes : List UInt8) : Prop where
  length : reply.length = bytes.length
  inside : bytes.length ≤ capacity
  content : reply.buffer.toList.take reply.length = bytes

structure Answer (cfg : FirmwareConfig) where
  status : Status
  payload : List UInt8
  session : ProtocolSession
  device : Device cfg

def Replies (opcode : UInt8) (requestId : UInt16) (result : Option (Outcome cfg capacity)) (answer : Answer cfg) : Prop :=
  ∃ reply, result = some ⟨reply,answer.session,answer.device⟩ ∧
    Carries reply (packet cfg opcode requestId answer.status answer.payload)

theorem finishResponse_carries (cfg : FirmwareConfig) (opcode : UInt8) (requestId : UInt16) (status : Status)
    (held : Holds response headerSize payload) :
    ∃ reply, finishResponse cfg response opcode requestId status payload.length = some reply ∧
      Carries reply (packet cfg opcode requestId status payload) := by
  have room : headerSize + payload.length ≤ capacity := held.1
  have field (response : Vector UInt8 capacity) (offset : Nat) (bytes : List UInt8)
      (inside : offset + bytes.length ≤ headerSize) : ∃ later, store response offset bytes = some later :=
    store_inside response offset bytes (by omega)
  obtain ⟨r0,s0⟩ := field response headerVersion [cfg.auth.protocolVersion] (by simp [headerSize,headerVersion])
  obtain ⟨r1,s1⟩ := field r0 headerOpcode [opcode] (by simp [headerSize,headerOpcode])
  obtain ⟨r2,s2⟩ := field r1 headerRequestId (u16Bytes requestId) (by simp [headerSize,headerRequestId])
  obtain ⟨r3,s3⟩ := field r2 headerPayloadLength (u16Bytes payload.length.toUInt16)
    (by simp [headerSize,headerPayloadLength])
  obtain ⟨r4,s4⟩ := field r3 headerStatus [status.value] (by simp [headerSize,headerStatus])
  obtain ⟨r5,s5⟩ := field r4 headerFlags [cfg.responseFlag] (by simp [headerSize,headerFlags])
  have h0 := held.behind s0 (by simp [headerSize,headerVersion])
  have h1 := h0.behind s1 (by simp [headerSize,headerOpcode])
  have h2 := h1.behind s2 (by simp [headerSize,headerRequestId])
  have h3 := h2.behind s3 (by simp [headerSize,headerPayloadLength])
  have h4 := h3.behind s4 (by simp [headerSize,headerStatus])
  have behind := h4.behind s5 (by simp [headerSize,headerFlags])
  have header : Holds r5 0 ([cfg.auth.protocolVersion] ++ [opcode] ++ u16Bytes requestId ++
      u16Bytes payload.length.toUInt16 ++ [status.value] ++ [cfg.responseFlag]) :=
    ((((((Holds.nil response (Nat.zero_le _)).append s0).append s1).append s2).append s3).append s4).append s5
  have whole := header.join behind
  refine ⟨⟨r5,headerSize + payload.length⟩,?_,?_,?_,?_⟩
  · simp only [finishResponse,s0,s1,s2,s3,s4,s5,Option.bind_eq_bind,Option.bind_some]
  · simp
  · simpa using room
  · have front := whole.take
    simpa [packet,Nat.add_comm,Nat.add_left_comm] using front

namespace Replies

variable {answer : Answer cfg} {memory : Vector UInt8 capacity} {bytes more : List UInt8}

theorem store {next : Vector UInt8 capacity → Option (Outcome cfg capacity)} (held : Holds memory offset bytes)
    (here : place = offset + bytes.length) (inside : place + more.length ≤ capacity)
    (rest : ∀ later, Holds later offset (bytes ++ more) → Replies opcode requestId (next later) answer) :
    Replies opcode requestId (Memory.store memory place more >>= next) answer := by
  subst here
  obtain ⟨later,stored⟩ := store_inside memory (offset + bytes.length) more inside
  rw [stored]
  exact rest later (held.append stored)

theorem finish (held : Holds response headerSize bytes) (same : bytes = payload) (size : length = bytes.length) :
    Replies opcode requestId (finishResponse cfg response opcode requestId status length >>= fun reply =>
      (some ⟨reply,session,device⟩ : Option (Outcome cfg capacity))) ⟨status,payload,session,device⟩ := by
  subst same size
  obtain ⟨reply,finished,carries⟩ := finishResponse_carries cfg opcode requestId status held
  rw [finished]
  exact ⟨reply,rfl,carries⟩

theorem empty (room : headerSize ≤ capacity) :
    Replies opcode requestId (finishEmpty cfg device session opcode requestId response status)
      ⟨status,[],session,device⟩ := by
  unfold finishEmpty
  exact finish (Holds.nil response room) rfl rfl

end Replies

def sensorBytes (sensor : SensorSnapshot) : List UInt8 :=
  u16Bytes sensor.temperatureCentiC.toUInt16 ++ [visibleValue (visibleState sensor)] ++ [flagByte sensor.displayEnabled]

def currentBytes (snapshot : CurrentSnapshot) : List UInt8 :=
  u32Bytes snapshot.bootId ++ u32Bytes snapshot.newestSequence ++ sensorBytes (snapshot.sensors 0) ++
    sensorBytes (snapshot.sensors 1) ++ u16Bytes snapshot.averageCentiC.toUInt16 ++ [flagByte snapshot.averageValid] ++ [0]

def displayBytes (sensorId : UInt8) (outcome : DisplayOutcome) : List UInt8 :=
  [sensorId] ++ [visibleValue outcome.resultingState] ++ [flagByte outcome.resultingEnabled]

def metaBytes (answer : HistoryMeta) : List UInt8 :=
  u32Bytes answer.bootId ++ u32Bytes answer.newestSequence ++ u16Bytes (answer.counts 0) ++ u16Bytes (answer.counts 1) ++
    u32Bytes (answer.oldestSequences 0) ++ u32Bytes (answer.oldestSequences 1)

def chunkRecordSize (compact : Bool) : Nat := if compact then compactHistoryRecordSize else historyRecordSize

def chunkBytes (compact : Bool) (sensorId : UInt8) (startSequence : UInt32) (records : List HistoryRecord) : List UInt8 :=
  [sensorId] ++ u32Bytes startSequence ++ [records.length.toUInt8] ++ [(chunkRecordSize compact).toUInt8] ++
    records.flatMap (encodeRecord compact)

def challengeBytes (bootId : UInt32) (authentication : AuthSession) : List UInt8 :=
  authentication.deviceId.toList ++ u32Bytes bootId ++ authentication.nonce.toList

@[simp] theorem encodeRecord_length : (encodeRecord compact record).length = chunkRecordSize compact := by
  cases compact <;> rfl

def answerAuthBegin (capacity : Nat) (device : Device cfg) (session : ProtocolSession) (platform : Platform) :
    Answer cfg :=
  let (result,authentication,lockout) :=
    applicationAuthBegin session.authentication device.lockout platform.nowUs platform.random
  let session := { session with authentication := authentication }
  let device := { device with lockout := lockout }
  if result = .locked then ⟨.authenticationLocked,[],session,device⟩
  else if result ≠ .success ∨ capacity < headerSize + authBeginResponseSize then ⟨.internalError,[],session,device⟩
  else ⟨.success,challengeBytes device.thermometer.bootId authentication,session,device⟩

theorem handleAuthBegin_replies (room : headerSize ≤ capacity) :
    Replies opcode requestId (handleAuthBegin cfg device session opcode requestId response platform)
      (answerAuthBegin capacity device session platform) := by
  unfold handleAuthBegin answerAuthBegin
  generalize applicationAuthBegin session.authentication device.lockout platform.nowUs platform.random = begun
  obtain ⟨result,authentication,lockout⟩ := begun
  dsimp only
  split
  · exact .empty room
  · split
    · exact .empty room
    · rename_i fitting
      have large : headerSize + authBeginResponseSize ≤ capacity := by
        simp only [not_or,Nat.not_lt] at fitting
        exact fitting.2
      simp only [headerSize,authBeginResponseSize,authBeginResponseDeviceId,authBeginResponseBootId,
        authBeginResponseNonce,Nat.reduceAdd] at large room ⊢
      refine .store (Holds.nil response room) rfl (by simp; omega) fun _ held => ?_
      refine .store held (by simp) (by simp; omega) fun _ held => ?_
      refine .store held (by simp) (by simp; omega) fun _ held => ?_
      exact .finish held (by simp [challengeBytes,currentSnapshot]) (by simp)

def answerAuthProve (device : Device cfg) (session : ProtocolSession) (platform : Platform) (payload : List UInt8) :
    Answer cfg :=
  if payload.length ≠ authProveRequestSize then ⟨.authenticationRequired,[],session,device⟩
  else
    let (result,authentication,lockout) := applicationAuthProve cfg.auth session.authentication device.lockout
      platform.nowUs device.thermometer.bootId payload
    ⟨proveStatus result,[],{ session with authentication := authentication },{ device with lockout := lockout }⟩

theorem handleAuthProve_replies (room : headerSize ≤ capacity) :
    Replies opcode requestId (handleAuthProve cfg device session opcode requestId response platform payload)
      (answerAuthProve device session platform payload) := by
  by_cases sized : payload.length = authProveRequestSize
  · rw [handleAuthProve_sized cfg _ _ _ _ _ _ sized,answerAuthProve,if_neg (not_not.mpr sized)]
    exact .empty room
  · rw [handleAuthProve,answerAuthProve,if_pos sized,if_pos sized]
    exact .empty room

def answerGetCurrent (capacity : Nat) (device : Device cfg) (session : ProtocolSession) : Answer cfg :=
  if capacity < headerSize + currentResponseSize then ⟨.internalError,[],session,device⟩
  else ⟨.success,currentBytes (currentSnapshot device.thermometer),session,device⟩

theorem handleGetCurrent_replies (room : headerSize ≤ capacity) :
    Replies opcode requestId (handleGetCurrent cfg device session opcode requestId response)
      (answerGetCurrent capacity device session) := by
  unfold handleGetCurrent answerGetCurrent
  split
  · exact .empty room
  · rename_i large
    simp only [headerSize,currentResponseSize,currentResponseBootId,currentResponseNewestSequence,currentResponseSensor1,
      currentResponseSensor2,currentResponseAverage,currentResponseAverageValid,currentResponseReserved,
      encodeSensorSnapshot,bind_assoc,Nat.reduceAdd,Nat.not_lt] at large room ⊢
    refine .store (Holds.nil response room) rfl (by simp; omega) fun _ held => ?_
    refine .store held (by simp) (by simp; omega) fun _ held => ?_
    refine .store held (by simp) (by simp; omega) fun _ held => ?_
    refine .store held (by simp) (by simp; omega) fun _ held => ?_
    refine .store held (by simp) (by simp; omega) fun _ held => ?_
    refine .store held (by simp) (by simp; omega) fun _ held => ?_
    refine .store held (by simp) (by simp; omega) fun _ held => ?_
    refine .store held (by simp) (by simp; omega) fun _ held => ?_
    refine .store held (by simp) (by simp; omega) fun _ held => ?_
    refine .store held (by simp) (by simp; omega) fun _ held => ?_
    refine .store held (by simp) (by simp; omega) fun _ held => ?_
    exact .finish held (by simp [currentBytes,sensorBytes]) rfl

def answerSetDisplay (capacity : Nat) (device : Device cfg) (session : ProtocolSession) (payload : List UInt8) :
    Answer cfg :=
  match payload with
  | [sensorId,enabled] =>
    if sensorId = 0 ∨ sensorCount < sensorId.toNat then ⟨.invalidSensor,[],session,device⟩
    else if 1 < enabled then ⟨.invalidValue,[],session,device⟩
    else if capacity < headerSize + setDisplayResponseSize then ⟨.internalError,[],session,device⟩
    else
      let (result,thermometer) := setDisplay device.thermometer sensorId (enabled ≠ 0)
      let outcome := result.getD ⟨false,.disconnected,false⟩
      ⟨if outcome.available then .success else .notAvailable,displayBytes sensorId outcome,session,
        { device with thermometer := thermometer }⟩
  | _ => ⟨.invalidValue,[],session,device⟩

theorem handleSetDisplay_replies (room : headerSize ≤ capacity) :
    Replies opcode requestId (handleSetDisplay cfg device session opcode requestId response payload)
      (answerSetDisplay capacity device session payload) := by
  unfold handleSetDisplay answerSetDisplay
  split
  · rename_i sized
    split
    · exact absurd rfl sized
    · exact .empty room
  · rename_i sized
    obtain ⟨sensorId,enabled,rfl⟩ := List.length_eq_two.mp (not_not.mp sized)
    simp only [List.getElem?_cons_zero,List.getElem?_cons_succ,Option.bind_eq_bind,Option.bind_some]
    split
    · exact .empty room
    · split
      · exact .empty room
      · split
        · exact .empty room
        · rename_i large
          simp only [headerSize,setDisplayResponseSize,Nat.reduceAdd,Nat.not_lt] at large room ⊢
          refine .store (Holds.nil response room) rfl (by simp; omega) fun _ held => ?_
          refine .store held (by simp) (by simp; omega) fun _ held => ?_
          refine .store held (by simp) (by simp; omega) fun _ held => ?_
          exact .finish held rfl rfl

def answerGetHistoryMeta (capacity : Nat) (device : Device cfg) (session : ProtocolSession) : Answer cfg :=
  if capacity < headerSize + historyMetaResponseSize then ⟨.internalError,[],session,device⟩
  else
    let (answer,thermometer) := getHistoryMeta device.thermometer
    ⟨.success,metaBytes answer,session,{ device with thermometer := thermometer }⟩

theorem handleGetHistoryMeta_replies (room : headerSize ≤ capacity) :
    Replies opcode requestId (handleGetHistoryMeta cfg device session opcode requestId response)
      (answerGetHistoryMeta capacity device session) := by
  unfold handleGetHistoryMeta answerGetHistoryMeta
  split
  · exact .empty room
  · rename_i large
    simp only [headerSize,historyMetaResponseSize,historyMetaResponseBootId,historyMetaResponseNewestSequence,
      historyMetaResponseSensor1Count,historyMetaResponseSensor2Count,historyMetaResponseSensor1Oldest,
      historyMetaResponseSensor2Oldest,Nat.reduceAdd,Nat.not_lt] at large room ⊢
    refine .store (Holds.nil response room) rfl (by simp; omega) fun _ held => ?_
    refine .store held (by simp) (by simp; omega) fun _ held => ?_
    refine .store held (by simp) (by simp; omega) fun _ held => ?_
    refine .store held (by simp) (by simp; omega) fun _ held => ?_
    refine .store held (by simp) (by simp; omega) fun _ held => ?_
    refine .store held (by simp) (by simp; omega) fun _ held => ?_
    exact .finish held (by simp [metaBytes]) rfl

def chunkLimit (cfg : FirmwareConfig) (capacity : Nat) (compact : Bool) (requested : UInt8) : Nat :=
  let recordsThatFit :=
    if headerSize + historyChunkPrefixSize < capacity then
      (capacity - (headerSize + historyChunkPrefixSize)) / chunkRecordSize compact
    else 0
  min (min requested.toNat (if compact then cfg.maxCompactHistoryRecords else cfg.maxHistoryRecords)) recordsThatFit

def answerChunk (capacity : Nat) (device : Device cfg) (session : ProtocolSession) (compact : Bool) (sensorId : UInt8)
    (startSequence : UInt32) (requested : UInt8) : Answer cfg :=
  if sensorId = 0 ∨ sensorCount < sensorId.toNat then ⟨.invalidSensor,[],session,device⟩
  else if requested = 0 then ⟨.invalidValue,[],session,device⟩
  else if chunkLimit cfg capacity compact requested = 0 then ⟨.internalError,[],session,device⟩
  else
    match copyHistory device.thermometer sensorId startSequence (chunkLimit cfg capacity compact requested) with
    | none => ⟨.notAvailable,[],session,device⟩
    | some records => ⟨.success,chunkBytes compact sensorId startSequence records,session,device⟩

def answerGetHistoryChunk (capacity : Nat) (device : Device cfg) (session : ProtocolSession) (payload : List UInt8)
    (compact : Bool) : Answer cfg :=
  match payload with
  | [sensorId,s0,s1,s2,s3,requested] =>
    answerChunk capacity device session compact sensorId
      (s0.toUInt32 ||| s1.toUInt32 <<< 8 ||| s2.toUInt32 <<< 16 ||| s3.toUInt32 <<< 24) requested
  | _ => ⟨.invalidValue,[],session,device⟩

theorem copyHistory_length {thermometer : State cfg.device} {count : Nat}
    (copied : copyHistory thermometer sensorId startSequence count = some records) :
    records.length ≤ count ∧ records.length ≠ 0 := by
  unfold copyHistory at copied
  split at copied
  · cases copied
  · rename_i index known
    generalize (if thermometer.historySnapshotValid then thermometer.historySnapshot index
      else (thermometer.sensors index).history) = buffer at copied
    have spec := buffer.copy_contents startSequence count
    dsimp only at spec
    rw [copied] at spec
    split at spec
    · cases spec
    · rename_i present
      have bound : buffer.contents.findIdx (·.sequence == startSequence) ≤ buffer.contents.length :=
        List.findIdx_le_length
      rw [Option.some.inj spec,List.length_take,List.length_drop]
      omega

theorem Replies.records {answer : Answer cfg} {next : Vector UInt8 capacity → Option (Outcome cfg capacity)}
    (records : List HistoryRecord) {memory : Vector UInt8 capacity} {bytes : List UInt8}
    (held : Holds memory offset bytes) (here : place = offset + bytes.length)
    (inside : place + records.length * chunkRecordSize compact ≤ capacity)
    (rest : ∀ later, Holds later offset (bytes ++ records.flatMap (encodeRecord compact)) →
      Replies opcode requestId (next later) answer) :
    Replies opcode requestId (storeRecords compact (chunkRecordSize compact) memory place records >>= next) answer := by
  induction records generalizing memory bytes place with
  | nil => exact rest memory (by simpa using held)
  | cons record records ih =>
    rw [List.length_cons,Nat.succ_mul] at inside
    simp only [storeRecords,bind_assoc]
    refine .store held here (by rw [encodeRecord_length]; omega) fun later held => ?_
    refine ih held (by rw [List.length_append,encodeRecord_length]; omega) (by omega) fun last whole => rest last ?_
    simpa using whole

theorem six_bytes (sized : payload.length = historyChunkRequestSize) :
    ∃ sensorId s0 s1 s2 s3 requested, payload = [sensorId,s0,s1,s2,s3,requested] := by
  match payload,sized with
  | [sensorId,s0,s1,s2,s3,requested],_ => exact ⟨sensorId,s0,s1,s2,s3,requested,rfl⟩

theorem chunkLimit_fits (cfg : FirmwareConfig) (capacity : Nat) (compact : Bool) (requested : UInt8)
    (some : chunkLimit cfg capacity compact requested ≠ 0) :
    headerSize + historyChunkPrefixSize + chunkLimit cfg capacity compact requested * chunkRecordSize compact ≤ capacity := by
  have least : chunkLimit cfg capacity compact requested ≤ if headerSize + historyChunkPrefixSize < capacity then
      (capacity - (headerSize + historyChunkPrefixSize)) / chunkRecordSize compact else 0 := Nat.min_le_right _ _
  split at least
  · have product := Nat.mul_le_of_le_div _ _ _ least
    omega
  · omega

theorem chunkLimit_records (cfg : FirmwareConfig) (capacity : Nat) (compact : Bool) (requested : UInt8)
    (records : cfg.maxHistoryRecords ≤ cfg.maxCompactHistoryRecords) :
    chunkLimit cfg capacity compact requested ≤ cfg.maxCompactHistoryRecords := by
  have least : chunkLimit cfg capacity compact requested ≤
      if compact then cfg.maxCompactHistoryRecords else cfg.maxHistoryRecords :=
    (Nat.min_le_left _ _).trans (Nat.min_le_right _ _)
  split at least <;> omega

theorem chunkLimit_requested (cfg : FirmwareConfig) (capacity : Nat) (compact : Bool) (requested : UInt8) :
    chunkLimit cfg capacity compact requested ≤ requested.toNat :=
  (Nat.min_le_left _ _).trans (Nat.min_le_left _ _)

-- A longer chunk of the full form leaves the local array.
def Overruns (result : Option (Outcome cfg capacity)) : Prop :=
  cfg.maxCompactHistoryRecords < cfg.maxHistoryRecords ∧ result = none

def Settles (opcode : UInt8) (requestId : UInt16) (result : Option (Outcome cfg capacity)) (answer : Answer cfg) : Prop :=
  Overruns result ∨ Replies opcode requestId result answer

theorem Settles.replies {result : Option (Outcome cfg capacity)} {answer : Answer cfg}
    (settles : Settles opcode requestId result answer)
    (shorter : cfg.maxHistoryRecords ≤ cfg.maxCompactHistoryRecords) : Replies opcode requestId result answer :=
  settles.resolve_left fun overruns => absurd overruns.1 (Nat.not_lt.mpr shorter)

theorem handleGetHistoryChunk_settles (room : headerSize ≤ capacity) :
    Settles opcode requestId (handleGetHistoryChunk cfg device session opcode requestId response payload compact)
      (answerGetHistoryChunk capacity device session payload compact) := by
  unfold handleGetHistoryChunk answerGetHistoryChunk
  split
  · rename_i sized
    split
    · exact absurd rfl sized
    · exact .inr (.empty room)
  · rename_i sized
    obtain ⟨sensorId,s0,s1,s2,s3,requested,rfl⟩ := six_bytes (not_not.mp sized)
    simp only [readU32,historyChunkRequestStartSequence,historyChunkRequestRecordCount,List.getElem?_cons_zero,
      List.getElem?_cons_succ,Nat.reduceAdd,Option.bind_eq_bind,Option.bind_some,answerChunk]
    generalize s0.toUInt32 ||| s1.toUInt32 <<< 8 ||| s2.toUInt32 <<< 16 ||| s3.toUInt32 <<< 24 = startSequence
    rw [← chunkRecordSize,← chunkLimit]
    split
    · exact .inr (.empty room)
    · split
      · exact .inr (.empty room)
      · split
        · exact .inr (.empty room)
        · rename_i positive
          have fits := chunkLimit_fits cfg capacity compact requested positive
          have local' := chunkLimit_records cfg capacity compact requested
          generalize chunkLimit cfg capacity compact requested = limit at *
          unfold copyRecords
          cases copied : copyHistory device.thermometer sensorId startSequence limit with
          | none => exact .inr (.empty room)
          | some records =>
            have length := copyHistory_length copied
            have inside : records.length * chunkRecordSize compact ≤ limit * chunkRecordSize compact :=
              Nat.mul_le_mul_right _ length.1
            by_cases held : records.length ≤ cfg.maxCompactHistoryRecords
            · right
              simp only [if_pos held,Option.bind_some,headerSize,historyChunkPrefixSize,
                historyChunkPrefixStartSequence,historyChunkPrefixRecordCount,historyChunkPrefixRecordSize,
                Nat.reduceAdd] at fits room ⊢
              refine .store (Holds.nil response room) rfl (by simp; omega) fun _ held => ?_
              refine .store held (by simp) (by simp; omega) fun _ held => ?_
              refine .store held (by simp) (by simp; omega) fun _ held => ?_
              refine .store held (by simp) (by simp; omega) fun _ held => ?_
              refine .records records held (by simp) (by omega) fun _ held => ?_
              exact .finish held (by simp [chunkBytes]) (by simp; omega)
            · left
              refine ⟨?_,by simp only [if_neg held,Option.bind_none]⟩
              by_contra shorter
              exact held (length.1.trans (local' (Nat.not_lt.mp shorter)))

def answerAuthenticated (capacity : Nat) (device : Device cfg) (session : ProtocolSession) (opcode : UInt8)
    (payload : List UInt8) : Answer cfg :=
  match Opcode.ofByte opcode with
  | some .getCurrent =>
    if payload.length ≠ 0 then ⟨.invalidValue,[],session,device⟩ else answerGetCurrent capacity device session
  | some .setDisplay => answerSetDisplay capacity device session payload
  | some .getHistoryMeta =>
    if payload.length ≠ 0 then ⟨.invalidValue,[],session,device⟩ else answerGetHistoryMeta capacity device session
  | some .getHistoryChunk => answerGetHistoryChunk capacity device session payload false
  | some .getHistoryChunkCompact => answerGetHistoryChunk capacity device session payload true
  | some .resetBond =>
    if payload.length ≠ 0 then ⟨.invalidValue,[],session,device⟩
    else ⟨.success,[],{ session with bondResetRequested := true },device⟩
  | _ => ⟨.invalidCommand,[],session,device⟩

theorem handleAuthenticated_settles (room : headerSize ≤ capacity) :
    Settles opcode requestId (handleAuthenticated cfg device session opcode requestId response payload)
      (answerAuthenticated capacity device session opcode payload) := by
  unfold handleAuthenticated answerAuthenticated
  cases Opcode.ofByte opcode with
  | none => exact .inr (.empty room)
  | some name =>
    cases name with
    | getCurrent =>
      dsimp only
      split
      · exact .inr (.empty room)
      · exact .inr (handleGetCurrent_replies room)
    | setDisplay => exact .inr (handleSetDisplay_replies room)
    | getHistoryMeta =>
      dsimp only
      split
      · exact .inr (.empty room)
      · exact .inr (handleGetHistoryMeta_replies room)
    | getHistoryChunk => exact handleGetHistoryChunk_settles room
    | getHistoryChunkCompact => exact handleGetHistoryChunk_settles room
    | resetBond =>
      dsimp only
      split
      · exact .inr (.empty room)
      · exact .inr (.empty room)
    | _ => exact .inr (.empty room)

def answerDispatch (capacity : Nat) (device : Device cfg) (session : ProtocolSession) (opcode : UInt8)
    (platform : Platform) (payload : List UInt8) : Answer cfg :=
  match Opcode.ofByte opcode with
  | some .authBegin =>
    if payload.length ≠ 0 then ⟨.invalidValue,[],session,device⟩ else answerAuthBegin capacity device session platform
  | some .authProve => answerAuthProve device session platform payload
  | _ =>
    if session.authentication.authenticated then answerAuthenticated capacity device session opcode payload
    else ⟨.authenticationRequired,[],session,device⟩

theorem dispatch_settles (room : headerSize ≤ capacity) :
    Settles opcode requestId (dispatch cfg device session opcode requestId response platform payload)
      (answerDispatch capacity device session opcode platform payload) := by
  have checked : Settles opcode requestId
      (if session.authentication.authenticated then
        handleAuthenticated cfg device session opcode requestId response payload
      else finishEmpty cfg device session opcode requestId response .authenticationRequired)
      (if session.authentication.authenticated then answerAuthenticated capacity device session opcode payload
      else ⟨.authenticationRequired,[],session,device⟩) := by
    split
    · exact handleAuthenticated_settles room
    · exact .inr (.empty room)
  unfold dispatch answerDispatch
  cases Opcode.ofByte opcode with
  | none => exact checked
  | some name =>
    cases name with
    | authBegin =>
      dsimp only
      split
      · exact .inr (.empty room)
      · exact .inr (handleAuthBegin_replies room)
    | authProve => exact .inr (handleAuthProve_replies room)
    | _ => exact checked

def echo (request : List UInt8) : UInt8 × UInt16 :=
  ((request[headerOpcode]?).getD 0,(readU16 request headerRequestId).getD 0)

theorem echoedOpcode_echo (request : List UInt8) : echoedOpcode request = some (echo request).1 := by
  unfold echoedOpcode echo
  split
  · rw [List.getElem?_eq_getElem ‹_›]
    rfl
  · rw [List.getElem?_eq_none (by omega)]
    rfl

theorem echoedRequestId_echo (request : List UInt8) : echoedRequestId request = some (echo request).2 := by
  unfold echoedRequestId echo
  split
  · rename_i inside
    have first : request[headerRequestId]? = some _ := List.getElem?_eq_getElem (by omega)
    have second : request[headerRequestId + 1]? = some _ := List.getElem?_eq_getElem (by omega)
    simp only [readU16,first,second,Option.bind_eq_bind,Option.bind_some,Option.getD_some]
  · rename_i outside
    have missing : request[headerRequestId + 1]? = none := List.getElem?_eq_none (by omega)
    cases first : request[headerRequestId]? <;> simp [readU16,first,missing]

def wellFormed (cfg : FirmwareConfig) (request : List UInt8) : Bool :=
  request[headerVersion]? = some cfg.auth.protocolVersion && request[headerStatus]? = some 0 &&
    request[headerFlags]? = some 0 &&
    (readU16 request headerPayloadLength).map UInt16.toNat = some (request.length - headerSize)

def answer (capacity : Nat) (device : Device cfg) (session : ProtocolSession) (platform : Platform)
    (request : List UInt8) : Answer cfg :=
  if request.length < headerSize then ⟨.invalidValue,[],session,device⟩
  else if request[headerVersion]? ≠ some cfg.auth.protocolVersion then ⟨.unsupportedVersion,[],session,device⟩
  else if !wellFormed cfg request then ⟨.invalidValue,[],session,device⟩
  else answerDispatch capacity device session (echo request).1 platform (request.drop headerSize)

theorem processRequest_settles (room : headerSize ≤ capacity) (request : List UInt8) :
    Settles (echo request).1 (echo request).2 (processRequest cfg device session response platform request)
      (answer capacity device session platform request) := by
  unfold processRequest answer
  rw [if_neg (Nat.not_lt.mpr room)]
  simp only [echoedOpcode_echo,echoedRequestId_echo,Option.bind_eq_bind,Option.bind_some]
  split
  · exact .inr (.empty room)
  · rename_i long
    have byte : ∀ index, index < headerSize → ∃ byte, request[index]? = some byte := fun index small =>
      ⟨_,List.getElem?_eq_getElem (by omega)⟩
    obtain ⟨version,b0⟩ := byte headerVersion (by decide)
    obtain ⟨low,b4⟩ := byte 4 (by decide)
    obtain ⟨high,b5⟩ := byte 5 (by decide)
    obtain ⟨status,b6⟩ := byte headerStatus (by decide)
    obtain ⟨flags,b7⟩ := byte headerFlags (by decide)
    simp only [b0,b6,b7,readU16,b4,b5,wellFormed,Option.bind_eq_bind,Option.bind_some,Option.some.injEq,Option.map_some,ne_eq]
    split
    · exact .inr (.empty room)
    · rename_i version
      split
      · rename_i refused
        rw [if_pos (by simp at version refused ⊢; tauto)]
        exact .inr (.empty room)
      · rename_i accepted
        rw [if_neg (by simp at version accepted ⊢; tauto)]
        exact dispatch_settles room

theorem processRequest_replies (room : headerSize ≤ capacity)
    (shorter : cfg.maxHistoryRecords ≤ cfg.maxCompactHistoryRecords) (request : List UInt8) :
    Replies (echo request).1 (echo request).2 (processRequest cfg device session response platform request)
      (answer capacity device session platform request) :=
  (processRequest_settles room request).replies shorter

end Thermometer.Firmware
