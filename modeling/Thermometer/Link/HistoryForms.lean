import Thermometer.Link.RoundTrip
import Thermometer.Client.ThermometerClient

-- The full and the compact form of a history chunk carry the same records.
namespace Thermometer.Link
open Memory Wire Struct Firmware
open Client (HistoryChunk)
open Client.Protocol (ProtocolConfig parseResponse decodeHistoryChunk chunkOpcode chunkRequest)

variable {cfg : FirmwareConfig} {device : Device cfg} {session : ProtocolSession} {platform : Platform}
  {sensorId requested : UInt8} {startSequence : UInt32}

theorem chunkLimit_positive (values : SharedValues cfg) (compact : Bool) (some : requested ≠ 0) :
    chunkLimit cfg cfg.maxPacketSize compact requested ≠ 0 := by
  have positive : requested.toNat ≠ 0 := fun zero => some (UInt8.toNat_inj.mp zero)
  have allowed := values.positive
  have shorter := values.shorter
  have full : headerSize + historyChunkPrefixSize + cfg.maxHistoryRecords * historyRecordSize ≤ cfg.maxPacketSize :=
    Nat.le_max_left _ _
  have small : headerSize + historyChunkPrefixSize + historyRecordSize ≤ cfg.maxPacketSize := by
    have record : historyRecordSize ≤ cfg.maxHistoryRecords * historyRecordSize := Nat.le_mul_of_pos_left _ allowed
    omega
  have fits : 0 < (cfg.maxPacketSize - (headerSize + historyChunkPrefixSize)) / chunkRecordSize compact := by
    apply Nat.div_pos
    · have size : chunkRecordSize compact ≤ historyRecordSize := chunkRecordSize_le compact
      omega
    · cases compact <;> decide
  have inside : headerSize + historyChunkPrefixSize < cfg.maxPacketSize := by
    have record : 0 < historyRecordSize := by decide
    omega
  have most : 0 < if compact then cfg.maxCompactHistoryRecords else cfg.maxHistoryRecords := by
    cases compact
    · exact allowed
    · exact Nat.lt_of_lt_of_le allowed shorter
  unfold chunkLimit
  rw [if_pos inside]
  exact Nat.ne_of_gt (Nat.lt_min.mpr ⟨Nat.lt_min.mpr ⟨Nat.pos_of_ne_zero positive,most⟩,fits⟩)

theorem copy_place {c : Capacity} (buffer : HistoryBuffer c) (startSequence : UInt32) :
    ∃ place : Option (List HistoryRecord), ∀ count, count ≠ 0 →
      buffer.copy startSequence count = place.map (·.take count) := by
  by_cases missing : buffer.contents.findIdx (·.sequence == startSequence) = buffer.contents.length
  · refine ⟨none,fun count _ => ?_⟩
    rw [buffer.copy_contents,if_pos (.inl missing)]
    rfl
  · refine ⟨some (buffer.contents.drop (buffer.contents.findIdx (·.sequence == startSequence))),fun count positive => ?_⟩
    rw [buffer.copy_contents,if_neg (not_or.mpr ⟨missing,positive⟩)]
    rfl

theorem copyHistory_place {cfg : DeviceConfig} (s : State cfg) (sensorId : UInt8) (startSequence : UInt32) :
    ∃ place : Option (List HistoryRecord), ∀ count, count ≠ 0 →
      copyHistory s sensorId startSequence count = place.map (·.take count) := by
  unfold copyHistory
  split
  · exact ⟨none,fun _ _ => rfl⟩
  · exact copy_place _ _

theorem answer_forms (device : Device cfg) (session : ProtocolSession) (sensorId : UInt8) (startSequence : UInt32)
    (values : SharedValues cfg) (some : requested ≠ 0) (platform : Bool → Platform) :
    (∃ status, status ≠ .success ∧ ∀ compact, (answerDispatch cfg.maxPacketSize device session (chunkOpcode compact).value
      (platform compact) (chunkRequest sensorId startSequence requested)).status = status) ∨
    ¬ (sensorId = 0 ∨ sensorCount < sensorId.toNat) ∧ ∃ place : List HistoryRecord, ∀ compact,
      let limit := chunkLimit cfg cfg.maxPacketSize compact requested
      copyHistory device.thermometer sensorId startSequence limit = .some (place.take limit) ∧
        answerDispatch cfg.maxPacketSize device session (chunkOpcode compact).value (platform compact)
          (chunkRequest sensorId startSequence requested) =
            ⟨.success,chunkBytes compact sensorId startSequence (place.take limit),session,device⟩ := by
  cases authenticated : session.authentication.authenticated with
  | false =>
    refine .inl ⟨.authenticationRequired,by decide,fun compact => ?_⟩
    cases compact <;> simp [answerDispatch,chunkOpcode,authenticated]
  | true =>
    simp only [answerDispatch_chunk authenticated,answerGetHistoryChunk_request,answerChunk]
    by_cases known : sensorId = 0 ∨ sensorCount < sensorId.toNat
    · exact .inl ⟨.invalidSensor,by decide,fun compact => by rw [if_pos known]⟩
    · simp only [if_neg known,if_neg some,if_neg (chunkLimit_positive values _ some)]
      obtain ⟨place,copied⟩ := copyHistory_place device.thermometer sensorId startSequence
      cases place with
      | none =>
        refine .inl ⟨.notAvailable,by decide,fun compact => ?_⟩
        rw [copied _ (chunkLimit_positive values compact some)]
        rfl
      | some place =>
        refine .inr ⟨known,place,fun compact => ?_⟩
        rw [copied _ (chunkLimit_positive values compact some)]
        exact ⟨rfl,rfl⟩

def chunkPacket (cfg : FirmwareConfig) (compact : Bool) (requestId : UInt16) (sensorId : UInt8) (startSequence : UInt32)
    (requested : UInt8) : List UInt8 :=
  requestPacket cfg.auth.protocolVersion (chunkOpcode compact).value requestId
    (chunkRequest sensorId startSequence requested)

def readChunk (config : ProtocolConfig) (compact : Bool) (requestId : UInt16) (raw : List UInt8) :
    Except Client.Failure HistoryChunk := do
  let response ← parseResponse config raw (some (chunkOpcode compact)) (some requestId) false
  decodeHistoryChunk response

theorem chunkValue_records {place : List HistoryRecord} {limit : Nat} (sensorId : UInt8) (startSequence : UInt32)
    (inside : i < (chunkValue sensorId startSequence (place.take limit)).records.length) :
    ∃ bound : i < place.length, (chunkValue sensorId startSequence (place.take limit)).records[i] = recordValue place[i] := by
  have bound : i < place.length := by
    simp [chunkValue] at inside
    omega
  exact ⟨bound,by simp [chunkValue]⟩

theorem readChunk_forms (values : SharedValues cfg) (device : Device cfg) (numbered : Numbered device.thermometer)
    (session : ProtocolSession) (some : requested ≠ 0) (sensorId : UInt8) (startSequence : UInt32)
    (requestId : Bool → UInt16) (response : Bool → Vector UInt8 cfg.maxPacketSize) (platform : Bool → Platform) :
    ∃ outcome : Bool → Outcome cfg cfg.maxPacketSize,
      (∀ compact, processRequest cfg device session (response compact) (platform compact)
        (chunkPacket cfg compact (requestId compact) sensorId startSequence requested) = .some (outcome compact)) ∧
      let chunk compact := readChunk (clientConfig cfg) compact (requestId compact)
        ((outcome compact).reply.buffer.toList.take (outcome compact).reply.length)
      (∃ status, ∀ compact, chunk compact = .error (.protocol s!"ESP32 returned {Client.Protocol.Status.name status}" status)) ∨
      ∃ place : List HistoryRecord, ∀ compact,
        let limit := chunkLimit cfg cfg.maxPacketSize compact requested
        chunk compact = .ok (chunkValue sensorId startSequence (place.take limit)) := by
  have short : (chunkRequest sensorId startSequence requested).length < 65536 := by simp [chunkRequest]
  have named (compact : Bool) : echo (chunkPacket cfg compact (requestId compact) sensorId startSequence requested) =
      ((chunkOpcode compact).value,requestId compact) := requestPacket_echo
  have exchanged (compact : Bool) := request_accepted values (maxPacketSize_header cfg) device session (response compact)
    (platform compact) (named compact)
  choose outcome processed _ _ _ parsed using exchanged
  refine ⟨outcome,processed,?_⟩
  simp only [readChunk,parsed,chunkPacket,answer_requestPacket short]
  rcases answer_forms device session sensorId startSequence values some platform with
    ⟨status,failed,refused⟩ | ⟨known,place,answered⟩
  · refine .inl ⟨status,fun compact => ?_⟩
    rw [refused compact,accept,if_neg failed]
    rfl
  · refine .inr ⟨place,fun compact => ?_⟩
    obtain ⟨copied,answered⟩ := answered compact
    rw [answered,accept,if_pos rfl]
    have few := (copyHistory_length copied).1.trans (chunkLimit_requested cfg cfg.maxPacketSize compact requested)
    have byte := requested.toNat_lt
    exact decodeHistoryChunk_bytes compact cfg.auth.protocolVersion (requestId compact) .success known startSequence
      (by omega) fun i inside => copyHistory_numbered numbered copied inside

section
open Client.Protocol (ThermometerClient Transport buildHistoryChunkRequest)

variable {σ : Type} {serve : σ → UInt8 → List UInt8 → (Status × List UInt8) × σ} {mtuSize : σ → Nat}

-- A firmware of any version behind the connection: what it answers to an opcode and a
-- payload, and the state it is left in.
def firmwareTransport (cfg : FirmwareConfig) (serve : σ → UInt8 → List UInt8 → (Status × List UInt8) × σ)
    (mtuSize : σ → Nat) : Transport σ where
  exchange request s :=
    let ((status,payload),s) := serve s (echo request).1 (request.drop headerSize)
    (.ok (Firmware.packet cfg (echo request).1 (echo request).2 status payload),s)
  mtuSize := mtuSize

theorem build_chunk (config : ProtocolConfig) (sensorId startSequence count : Int) (compact : Bool) :
    (∃ message, ∀ requestId : UInt16, buildHistoryChunkRequest config requestId.toNat sensorId startSequence count compact =
      .error (.other message)) ∨
    ∃ payload, payload.length < 65536 ∧ ∀ requestId : UInt16,
      buildHistoryChunkRequest config requestId.toNat sensorId startSequence count compact =
        .ok (requestPacket config.protocolVersion (chunkOpcode compact).value requestId payload) := by
  unfold buildHistoryChunkRequest Client.Protocol.validateSensorId Client.Protocol.valueError
  simp only [bind,Except.bind]
  by_cases sensor : sensorId < 1 ∨ (sensorCount : Int) < sensorId
  · simp only [if_pos sensor]
    exact .inl ⟨_,fun _ => rfl⟩
  · simp only [if_neg sensor]
    by_cases start : startSequence < 0 ∨ 4294967295 < startSequence
    · simp only [if_pos start]
      exact .inl ⟨_,fun _ => rfl⟩
    · simp only [if_neg start]
      by_cases number : count < 1 ∨ (Client.Protocol.maximumRecords config compact : Int) < count
      · simp only [if_pos number]
        exact .inl ⟨_,fun _ => rfl⟩
      · simp only [if_neg number]
        refine .inr ⟨chunkRequest (.ofNat sensorId.toNat) (.ofNat startSequence.toNat) (.ofNat count.toNat),
          by simp [chunkRequest],fun requestId => ?_⟩
        exact buildRequest_packet config (chunkOpcode compact) requestId (by simp [chunkRequest])

theorem exchange_firmware (serve : σ → UInt8 → List UInt8 → (Status × List UInt8) × σ) (mtuSize : σ → Nat)
    (flag : cfg.responseFlag ≠ 0) (name : Opcode) (requestId : UInt16) (payload : List UInt8)
    (client : ThermometerClient σ) (small : (serve client.connection name.value payload).1.2.length < 65536) :
    client.exchangePacket (clientConfig cfg) (firmwareTransport cfg serve mtuSize)
        (requestPacket cfg.auth.protocolVersion name.value requestId payload) name requestId =
      (accept cfg.auth.protocolVersion name requestId (serve client.connection name.value payload).1.1
          (serve client.connection name.value payload).1.2,
        { client with connection := (serve client.connection name.value payload).2 }) := by
  have dropped : (requestPacket cfg.auth.protocolVersion name.value requestId payload).drop headerSize = payload := rfl
  simp only [ThermometerClient.exchangePacket,firmwareTransport,requestPacket_echo,dropped]
  rw [← parseResponse_own flag name requestId _ small]
  rfl

theorem chunkRound_firmware (mtuSize : σ → Nat) (values : SharedValues cfg)
    (small : ∀ s opcode payload, (serve s opcode payload).1.2.length < 65536) (client : ThermometerClient σ)
    (sensorId startSequence count : Int) (compact : Bool) :
    (∃ message, ∀ client' : ThermometerClient σ, client'.connection = client.connection → client'.compact = client.compact →
      client'.chunkRound (clientConfig cfg) (firmwareTransport cfg serve mtuSize) sensorId startSequence count compact =
        (.error (.other message),client'.nextRequestId)) ∨
    ∃ payload, ∀ client' : ThermometerClient σ, client'.connection = client.connection → client'.compact = client.compact →
      let served := serve client.connection (chunkOpcode compact).value payload
      client'.chunkRound (clientConfig cfg) (firmwareTransport cfg serve mtuSize) sensorId startSequence count compact =
        (accept cfg.auth.protocolVersion (chunkOpcode compact) (client'.requestId + 1) served.1.1 served.1.2,
          { client'.nextRequestId with connection := served.2 }) := by
  have limit (client' : ThermometerClient σ) (connected : client'.connection = client.connection)
      (supported : client'.compact = client.compact) :
      client'.nextRequestId.recordsPerChunk (clientConfig cfg) (firmwareTransport cfg serve mtuSize) =
        client.recordsPerChunk (clientConfig cfg) (firmwareTransport cfg serve mtuSize) := by
    unfold ThermometerClient.compact at supported
    simp only [ThermometerClient.recordsPerChunk,ThermometerClient.nextRequestId,ThermometerClient.compact,connected,supported]
  rcases build_chunk (clientConfig cfg) sensorId startSequence
      (min count (client.recordsPerChunk (clientConfig cfg) (firmwareTransport cfg serve mtuSize))) compact
    with ⟨message,refused⟩ | ⟨payload,_,built⟩
  · refine .inl ⟨message,fun client' connected supported => ?_⟩
    simp only [ThermometerClient.chunkRound,limit client' connected supported,refused]
  · refine .inr ⟨payload,fun client' connected supported => ?_⟩
    simp only [ThermometerClient.chunkRound,limit client' connected supported,built]
    have exchanged := exchange_firmware serve mtuSize values.flag (chunkOpcode compact)
      client'.nextRequestId.requestId payload client'.nextRequestId (small _ _ _)
    simp only [ThermometerClient.nextRequestId,connected] at exchanged ⊢
    exact exchanged

theorem chunkRead_accept (compact : Bool) (requestId other : UInt16) (left right : ThermometerClient σ) :
    (ThermometerClient.chunkRead compact
      (accept cfg.auth.protocolVersion (chunkOpcode compact) requestId status payload,left)).1 =
    (ThermometerClient.chunkRead compact
      (accept cfg.auth.protocolVersion (chunkOpcode compact) other status payload,right)).1 := by
  unfold accept
  split <;> rfl

theorem chunkRound_same (mtuSize : σ → Nat) (values : SharedValues cfg)
    (small : ∀ s opcode payload, (serve s opcode payload).1.2.length < 65536) (client other : ThermometerClient σ)
    (connected : client.connection = other.connection) (supported : client.compact = other.compact)
    (sensorId startSequence count : Int) (compact : Bool) :
    (ThermometerClient.chunkRead compact (client.chunkRound (clientConfig cfg) (firmwareTransport cfg serve mtuSize)
      sensorId startSequence count compact)).1 =
    (ThermometerClient.chunkRead compact (other.chunkRound (clientConfig cfg) (firmwareTransport cfg serve mtuSize)
      sensorId startSequence count compact)).1 := by
  rcases chunkRound_firmware mtuSize values small other sensorId startSequence count compact with
    ⟨message,refused⟩ | ⟨payload,answered⟩
  · rw [refused client connected supported,refused other rfl rfl]
    rfl
  · rw [answered client connected supported,answered other rfl rfl]
    exact chunkRead_accept compact _ _ _ _

-- A client that found the compact form refused reads what it would have read had it
-- known before, from a firmware that a refused command leaves as it was.
theorem fallback_agrees (values : SharedValues cfg)
    (small : ∀ s opcode payload, (serve s opcode payload).1.2.length < 65536)
    (unchanged : ∀ s opcode payload, (serve s opcode payload).1.1 = .invalidCommand → (serve s opcode payload).2 = s)
    (client other : ThermometerClient σ) (hopeful : client.compactHistorySupported ≠ some false)
    (full : other.compactHistorySupported = some false) (connected : other.connection = client.connection)
    (sensorId startSequence count : Int)
    (fellBack : (client.getHistoryChunk (clientConfig cfg) (firmwareTransport cfg serve mtuSize)
      sensorId startSequence count).2.compactHistorySupported = some false) :
    (client.getHistoryChunk (clientConfig cfg) (firmwareTransport cfg serve mtuSize) sensorId startSequence count).1 =
      (other.getHistoryChunk (clientConfig cfg) (firmwareTransport cfg serve mtuSize) sensorId startSequence count).1 := by
  have compact : client.compact = true := by simpa [ThermometerClient.compact] using hopeful
  have plain : other.compact = false := by simp [ThermometerClient.compact,full]
  rw [ThermometerClient.getHistoryChunk_full plain]
  have kept (first : ∀ message, (client.chunkRound (clientConfig cfg) (firmwareTransport cfg serve mtuSize)
        sensorId startSequence count true).1 ≠ .error (.protocol message (some .invalidCommand)))
      (later : (client.chunkRound (clientConfig cfg) (firmwareTransport cfg serve mtuSize)
        sensorId startSequence count true).2.compactHistorySupported = client.compactHistorySupported) : False := by
    rw [ThermometerClient.getHistoryChunk_compact compact first] at fellBack
    exact ThermometerClient.chunkRead_supported (later ▸ hopeful) fellBack
  rcases chunkRound_firmware mtuSize values small client sensorId startSequence count true with
    ⟨message,refused⟩ | ⟨payload,answered⟩
  · have first := refused client rfl rfl
    exact (kept (by simp [first]) (by rw [first]; rfl)).elim
  · have first := answered client rfl rfl
    have same := unchanged client.connection (chunkOpcode true).value payload
    dsimp only at first
    generalize serve client.connection (chunkOpcode true).value payload = served at *
    by_cases refused : served.1.1 = .invalidCommand
    · have failed : served.1.1 ≠ .success := by simp [refused]
      rw [accept,if_neg failed,refused,same refused] at first
      rw [ThermometerClient.getHistoryChunk_refused compact first]
      apply chunkRound_same mtuSize values small _ other
      · exact connected.symm
      · simp [ThermometerClient.compact,full]
    · refine (kept (fun message => ?_) (by rw [first]; rfl)).elim
      rw [first,accept]
      split
      · intro same
        cases same
      · simp [refused]

end

-- A firmware that does not know the compact form, and all else like this one.
def olderFirmware (capacity : Nat) (platform : Platform) (s : Device cfg × ProtocolSession) (opcode : UInt8)
    (payload : List UInt8) : (Status × List UInt8) × Device cfg × ProtocolSession :=
  if opcode = (chunkOpcode true).value then ((.invalidCommand,[]),s)
  else
    let answered := answerDispatch capacity s.1 s.2 opcode platform payload
    ((answered.status,answered.payload),answered.device,answered.session)

theorem answerChunk_unchanged (compact : Bool) :
    (answerChunk capacity device session compact sensorId startSequence requested).device = device ∧
      (answerChunk capacity device session compact sensorId startSequence requested).session = session := by
  unfold answerChunk
  repeat' split
  all_goals exact ⟨rfl,rfl⟩

theorem answerGetHistoryChunk_unchanged (payload : List UInt8) (compact : Bool) :
    (answerGetHistoryChunk capacity device session payload compact).device = device ∧
      (answerGetHistoryChunk capacity device session payload compact).session = session := by
  unfold answerGetHistoryChunk
  split
  · exact answerChunk_unchanged compact
  · exact ⟨rfl,rfl⟩

theorem answerAuthenticated_refused
    (refused : (answerAuthenticated capacity device session opcode payload).status = .invalidCommand) :
    (answerAuthenticated capacity device session opcode payload).device = device ∧
      (answerAuthenticated capacity device session opcode payload).session = session := by
  unfold answerAuthenticated at refused ⊢
  split at refused
  · unfold answerGetCurrent at refused
    repeat' split at refused
    all_goals cases refused
  · unfold answerSetDisplay at refused
    repeat' split at refused
    all_goals try cases refused
    dsimp only at refused
    split at refused <;> cases refused
  · unfold answerGetHistoryMeta at refused
    repeat' split at refused
    all_goals cases refused
  · exact answerGetHistoryChunk_unchanged payload false
  · exact answerGetHistoryChunk_unchanged payload true
  · split at refused <;> cases refused
  · exact ⟨rfl,rfl⟩

theorem answerDispatch_refused
    (refused : (answerDispatch capacity device session opcode platform payload).status = .invalidCommand) :
    (answerDispatch capacity device session opcode platform payload).device = device ∧
      (answerDispatch capacity device session opcode platform payload).session = session := by
  unfold answerDispatch at refused ⊢
  split at refused
  · unfold answerAuthBegin at refused
    dsimp only at refused
    repeat' split at refused
    all_goals cases refused
  · unfold answerAuthProve proveStatus at refused
    dsimp only at refused
    repeat' split at refused
    all_goals cases refused
  · split at refused
    · rename_i authenticated
      rw [if_pos authenticated]
      exact answerAuthenticated_refused refused
    · cases refused

theorem olderFirmware_small (capacity : Nat) (platform : Platform) (s : Device cfg × ProtocolSession) (opcode : UInt8)
    (payload : List UInt8) : (olderFirmware capacity platform s opcode payload).1.2.length < 65536 := by
  unfold olderFirmware
  split
  · simp
  · exact answerDispatch_small opcode payload

theorem olderFirmware_unchanged (capacity : Nat) (platform : Platform) (s : Device cfg × ProtocolSession) (opcode : UInt8)
    (payload : List UInt8) (refused : (olderFirmware capacity platform s opcode payload).1.1 = .invalidCommand) :
    (olderFirmware capacity platform s opcode payload).2 = s := by
  unfold olderFirmware at refused ⊢
  split
  · rfl
  · rename_i known
    rw [if_neg known] at refused
    obtain ⟨device,session⟩ := answerDispatch_refused refused
    exact Prod.ext device session

-- On one device the two forms fail alike, or agree as far as both reach; and a client
-- learns from either kind of firmware what the full form says.
theorem history_forms_agree (values : SharedValues cfg) :
    (∀ (device : Device cfg) (bootId : UInt32) (events : List Event),
      device.thermometer = run (start cfg.device bootId) events →
      ∀ (session : ProtocolSession) (sensorId : UInt8) (startSequence : UInt32) (requested : UInt8), requested ≠ 0 →
      ∀ (requestId : Bool → UInt16) (response : Bool → Vector UInt8 cfg.maxPacketSize) (platform : Bool → Platform),
      ∃ outcome : Bool → Outcome cfg cfg.maxPacketSize,
        (∀ compact, processRequest cfg device session (response compact) (platform compact)
          (chunkPacket cfg compact (requestId compact) sensorId startSequence requested) = some (outcome compact)) ∧
        let chunk compact := readChunk (clientConfig cfg) compact (requestId compact)
          ((outcome compact).reply.buffer.toList.take (outcome compact).reply.length)
        (∃ status, ∀ compact,
          chunk compact = .error (.protocol s!"ESP32 returned {Client.Protocol.Status.name status}" (some status))) ∨
        ∃ full compact, chunk false = .ok full ∧ chunk true = .ok compact ∧ full.sensorId = compact.sensorId ∧
          full.startSequence = compact.startSequence ∧
          ∀ (i : Nat) (inFull : i < full.records.length) (inCompact : i < compact.records.length),
            full.records[i] = compact.records[i]) ∧
    ∀ (σ : Type) (serve : σ → UInt8 → List UInt8 → (Status × List UInt8) × σ) (mtuSize : σ → Nat),
      (∀ s opcode payload, (serve s opcode payload).1.2.length < 65536) →
      (∀ s opcode payload, (serve s opcode payload).1.1 = .invalidCommand → (serve s opcode payload).2 = s) →
      ∀ client other : Client.Protocol.ThermometerClient σ, client.compactHistorySupported ≠ some false →
      other.compactHistorySupported = some false → other.connection = client.connection →
      ∀ sensorId startSequence count : Int,
        let read (client : Client.Protocol.ThermometerClient σ) :=
          client.getHistoryChunk (clientConfig cfg) (firmwareTransport cfg serve mtuSize) sensorId startSequence count
        (read client).2.compactHistorySupported = some false → (read client).1 = (read other).1 := by
  refine ⟨?_,?_⟩
  · intro device bootId events reached session sensorId startSequence requested positive requestId response platform
    have numbered : Numbered device.thermometer := reached ▸ run_numbered cfg.device bootId events
    obtain ⟨outcome,processed,failed | ⟨place,decoded⟩⟩ := readChunk_forms values device numbered session positive sensorId
      startSequence requestId response platform
    · exact ⟨outcome,processed,.inl failed⟩
    · refine ⟨outcome,processed,.inr ⟨_,_,decoded false,decoded true,rfl,rfl,?_⟩⟩
      intro i inFull inCompact
      obtain ⟨_,full⟩ := chunkValue_records sensorId startSequence inFull
      obtain ⟨_,compact⟩ := chunkValue_records sensorId startSequence inCompact
      rw [full,compact]
  · intro σ serve mtuSize small unchanged client other hopeful full connected sensorId startSequence count
    exact fallback_agrees values small unchanged client other hopeful full connected sensorId startSequence count

-- Forty records are asked for; the full form stops at thirty-two.
theorem history_forms_agree_frost :
    (∃ outcome : Bool → Outcome frostConfig frostConfig.maxPacketSize, ∀ compact,
      processRequest frostConfig frostDevice openSession (Vector.replicate frostConfig.maxPacketSize 0)
        ⟨0,.replicate 16 0⟩ (chunkPacket frostConfig compact 9 1 1 40) = some (outcome compact)) ∧
    let read (supported : Option Bool) :=
      (Client.Protocol.ThermometerClient.getHistoryChunk (clientConfig frostConfig)
        (firmwareTransport frostConfig (olderFirmware frostConfig.maxPacketSize ⟨0,.replicate 16 0⟩) fun _ => 247)
        ⟨none,9,supported,(frostDevice,openSession)⟩ 1 1 40).1
    read none = read (some false) := by
  obtain ⟨forms,fallback⟩ := history_forms_agree (shippedConfig_values [] fun _ _ => none)
  obtain ⟨outcome,processed,_⟩ := forms frostDevice 7 frost rfl openSession 1 1 40 (by decide) (fun _ => 9)
    (fun _ => Vector.replicate frostConfig.maxPacketSize 0) fun _ => ⟨0,.replicate 16 0⟩
  exact ⟨⟨outcome,processed⟩,fallback _ (olderFirmware frostConfig.maxPacketSize ⟨0,.replicate 16 0⟩) (fun _ => 247)
    (olderFirmware_small _ _) (olderFirmware_unchanged _ _) ⟨none,9,none,(frostDevice,openSession)⟩
    ⟨none,9,some false,(frostDevice,openSession)⟩ nofun rfl rfl 1 1 40 (by decide +kernel)⟩

end Thermometer.Link
