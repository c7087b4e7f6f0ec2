import Thermometer.Link.HistoryForms

-- The chunks that the client asks for fit into the negotiated MTU.
namespace Thermometer.Link
open Memory Wire Firmware
open Client (SensorId)
open Client.Protocol (ProtocolConfig ThermometerClient Transport buildHistoryChunkRequest chunkOpcode chunkRequest maximumRecords)

variable {cfg : FirmwareConfig} {σ : Type} {transport : Transport σ}

def valueCapacity (mtuSize : Nat) : Nat := mtuSize - 1

def Roomy (mtuSize : Nat) : Prop := headerSize + historyChunkPrefixSize + historyRecordSize ≤ valueCapacity mtuSize

def Fits (cfg : FirmwareConfig) (sensorId : SensorId) (startSequence : UInt32) (mtuSize : Nat) (packet : List UInt8) : Prop :=
  ∃ compact requestId requested,
    packet = chunkPacket cfg compact requestId (.ofNat sensorId.number) startSequence requested ∧
    1 ≤ requested.toNat ∧ requested.toNat ≤ maximumRecords (clientConfig cfg) compact ∧
    ∀ (capacity : Nat) (device : Device cfg) (session : ProtocolSession) (response : Vector UInt8 capacity)
      (platform : Platform) (outcome : Outcome cfg capacity),
      processRequest cfg device session response platform packet = some outcome →
      outcome.reply.length ≤ valueCapacity mtuSize

theorem answerChunk_length (device : Device cfg) (session : ProtocolSession) (compact : Bool) (sensorId : UInt8)
    (startSequence : UInt32) (requested : UInt8) :
    (answerChunk capacity device session compact sensorId startSequence requested).payload.length ≤
      historyChunkPrefixSize + requested.toNat * chunkRecordSize compact := by
  unfold answerChunk
  split
  · exact Nat.zero_le _
  · split
    · exact Nat.zero_le _
    · split
      · exact Nat.zero_le _
      · split
        · exact Nat.zero_le _
        · rename_i records copied
          have count := (copyHistory_length copied).1.trans (chunkLimit_requested cfg capacity compact requested)
          rw [chunkBytes_length]
          exact Nat.add_le_add_left (Nat.mul_le_mul_right _ count) _

theorem answer_chunkPacket (device : Device cfg) (session : ProtocolSession) (platform : Platform) (compact : Bool)
    (requestId : UInt16) (sensorId : UInt8) (startSequence : UInt32) (requested : UInt8) :
    (answer capacity device session platform
      (chunkPacket cfg compact requestId sensorId startSequence requested)).payload.length ≤
        historyChunkPrefixSize + requested.toNat * chunkRecordSize compact := by
  rw [chunkPacket,answer_requestPacket (by simp [chunkRequest])]
  cases authenticated : session.authentication.authenticated with
  | true =>
    rw [answerDispatch_chunk authenticated,answerGetHistoryChunk_request]
    exact answerChunk_length device session compact sensorId startSequence requested
  | false =>
    have refused : (answerDispatch capacity device session (chunkOpcode compact).value platform
        (chunkRequest sensorId startSequence requested)).payload = [] := by
      cases compact <;> simp [answerDispatch,chunkOpcode,authenticated]
    rw [refused]
    exact Nat.zero_le _

theorem processRequest_chunk (shorter : cfg.maxHistoryRecords ≤ cfg.maxCompactHistoryRecords) {device : Device cfg}
    {session : ProtocolSession} {response : Vector UInt8 capacity} {platform : Platform} {outcome : Outcome cfg capacity}
    (processed : processRequest cfg device session response platform
      (chunkPacket cfg compact requestId sensorId startSequence requested) = some outcome) :
    outcome.reply.length ≤ headerSize + historyChunkPrefixSize + requested.toNat * chunkRecordSize compact := by
  by_cases room : headerSize ≤ capacity
  · have replied : Replies (echo (chunkPacket cfg compact requestId sensorId startSequence requested)).1
        (echo (chunkPacket cfg compact requestId sensorId startSequence requested)).2
        (processRequest cfg device session response platform
          (chunkPacket cfg compact requestId sensorId startSequence requested))
        (answer capacity device session platform (chunkPacket cfg compact requestId sensorId startSequence requested)) :=
      processRequest_replies room shorter _
    obtain ⟨reply,answered,carries⟩ := replied
    rw [answered] at processed
    cases processed
    have length := carries.length
    rw [packet_length] at length
    have payload : (answer capacity device session platform
        (chunkPacket cfg compact requestId sensorId startSequence requested)).payload.length ≤
          historyChunkPrefixSize + requested.toNat * chunkRecordSize compact :=
      answer_chunkPacket device session platform compact requestId sensorId startSequence requested
    dsimp only
    omega
  · rw [processRequest,if_pos (by omega)] at processed
    cases processed
    exact Nat.zero_le _

theorem maximumRecords_positive (values : SharedValues cfg) (compact : Bool) :
    0 < maximumRecords (clientConfig cfg) compact := by
  cases compact
  · exact values.positive
  · exact Nat.lt_of_lt_of_le values.positive values.shorter

theorem maximumRecords_byte (values : SharedValues cfg) (byte : cfg.maxCompactHistoryRecords ≤ 255) (compact : Bool) :
    maximumRecords (clientConfig cfg) compact ≤ 255 := by
  cases compact
  · exact values.shorter.trans byte
  · exact byte

theorem recordsPerChunk_bounds (values : SharedValues cfg) (client : ThermometerClient σ)
    (roomy : Roomy (transport.mtuSize client.connection)) :
    let records := client.recordsPerChunk (clientConfig cfg) transport
    1 ≤ records ∧ records ≤ maximumRecords (clientConfig cfg) client.compact ∧
      (headerSize + historyChunkPrefixSize : Nat) + records * chunkRecordSize client.compact ≤
        valueCapacity (transport.mtuSize client.connection) := by
  have positive := maximumRecords_positive values client.compact
  unfold ThermometerClient.recordsPerChunk
  unfold Roomy valueCapacity at *
  generalize transport.mtuSize client.connection = mtuSize at *
  generalize maximumRecords (clientConfig cfg) client.compact = maximum at *
  cases client.compact
  · simp [Client.Protocol.recordLayout,chunkRecordSize,historyRecordSize,historyChunkPrefixSize,headerSize] at *
    omega
  · simp [Client.Protocol.recordLayout,chunkRecordSize,compactHistoryRecordSize,historyRecordSize,historyChunkPrefixSize,headerSize] at *
    omega

theorem build_fits (values : SharedValues cfg) (byte : cfg.maxCompactHistoryRecords ≤ 255) (client : ThermometerClient σ)
    (roomy : Roomy (transport.mtuSize client.connection)) (requestId : UInt16) (sensorId : SensorId)
    (startSequence : UInt32) {count : Int} (positive : 1 ≤ count) :
    ∃ packet, buildHistoryChunkRequest (clientConfig cfg) requestId.toNat sensorId.number startSequence.toNat
        (min count (client.recordsPerChunk (clientConfig cfg) transport)) client.compact = .ok packet ∧
      Fits cfg sensorId startSequence (transport.mtuSize client.connection) packet := by
  obtain ⟨least,most,room⟩ := recordsPerChunk_bounds values client roomy
  have single := maximumRecords_byte values byte client.compact
  have lower : 1 ≤ min count (client.recordsPerChunk (clientConfig cfg) transport) := Int.le_min.mpr ⟨positive,least⟩
  have upper := Int.min_le_right count (client.recordsPerChunk (clientConfig cfg) transport)
  generalize client.recordsPerChunk (clientConfig cfg) transport = records at *
  generalize min count records = asked at *
  obtain ⟨requested,rfl⟩ := Int.eq_ofNat_of_zero_le (by omega : 0 ≤ asked)
  have kept : (UInt8.ofNat requested).toNat = requested := by
    rw [UInt8.toNat_ofNat',Nat.mod_eq_of_lt (by omega)]
  have word := startSequence.toNat_lt
  have known := sensorId.isLt
  refine ⟨chunkPacket cfg client.compact requestId (.ofNat sensorId.number) startSequence (.ofNat requested),?_,
    client.compact,requestId,.ofNat requested,rfl,?_,?_,?_⟩
  · unfold buildHistoryChunkRequest Client.Protocol.validateSensorId SensorId.number
    rw [if_neg (by omega)]
    simp only [bind,Except.bind]
    rw [if_neg (by omega),if_neg (by omega)]
    have short : (chunkRequest (.ofNat (sensorId.val + 1)) startSequence (.ofNat requested)).length < 65536 := by
      simp [chunkRequest]
    simpa [chunkPacket,clientConfig] using buildRequest_packet (clientConfig cfg) (chunkOpcode client.compact) requestId short
  · omega
  · omega
  · intro capacity device session response platform outcome processed
    refine (processRequest_chunk values.shorter processed).trans ?_
    rw [kept]
    have product : requested * chunkRecordSize client.compact ≤ records.toNat * chunkRecordSize client.compact :=
      Nat.mul_le_mul_right _ (by omega)
    have whole : (headerSize + historyChunkPrefixSize) + records.toNat * chunkRecordSize client.compact ≤
        valueCapacity (transport.mtuSize client.connection) := by
      have cast : records = (records.toNat : Int) := by omega
      rw [cast] at room
      exact_mod_cast room
    omega

abbrev Sent := List (Nat × List UInt8)

def recorded (transport : Transport σ) : Transport (σ × Sent) where
  exchange packet s :=
    let (raw,connection) := transport.exchange packet s.1
    (raw,(connection,s.2 ++ [(transport.mtuSize s.1,packet)]))
  mtuSize s := transport.mtuSize s.1

theorem chunkRound_sends (values : SharedValues cfg) (byte : cfg.maxCompactHistoryRecords ≤ 255)
    (client : ThermometerClient (σ × Sent)) (roomy : Roomy (transport.mtuSize client.connection.1)) (sensorId : SensorId)
    (startSequence : UInt32) {count : Int} (positive : 1 ≤ count) (form : client.compact = compact) :
    let round := client.chunkRound (clientConfig cfg) (recorded transport) sensorId.number startSequence.toNat count compact
    ∃ packet, Fits cfg sensorId startSequence (transport.mtuSize client.connection.1) packet ∧
      round.2.connection.2 = client.connection.2 ++ [(transport.mtuSize client.connection.1,packet)] := by
  have wide : Roomy ((recorded transport).mtuSize client.nextRequestId.connection) := roomy
  obtain ⟨packet,built,fits⟩ := build_fits values byte client.nextRequestId wide (client.requestId + 1) sensorId
    startSequence positive
  refine ⟨packet,fits,?_⟩
  subst form
  have same : client.nextRequestId.compact = client.compact := rfl
  rw [same] at built
  unfold ThermometerClient.chunkRound
  simp only [ThermometerClient.nextRequestId] at built ⊢
  rw [built]
  rfl

theorem chunkRead_connection (compact : Bool) (round : Except Client.Failure Client.Protocol.Response × ThermometerClient σ) :
    (ThermometerClient.chunkRead compact round).2.connection = round.2.connection := by
  obtain ⟨response | failure,client⟩ := round <;> rfl

theorem getHistoryChunk_sends (values : SharedValues cfg) (byte : cfg.maxCompactHistoryRecords ≤ 255)
    (roomy : ∀ s, Roomy (transport.mtuSize s)) (client : ThermometerClient (σ × Sent)) (sensorId : SensorId)
    (startSequence : UInt32) {count : Int} (positive : 1 ≤ count) :
    ∃ sent : Sent, (client.getHistoryChunk (clientConfig cfg) (recorded transport) sensorId.number startSequence.toNat
        count).2.connection.2 = client.connection.2 ++ sent ∧
      (∀ entry ∈ sent, Fits cfg sensorId startSequence entry.1 entry.2) ∧
      (sent.length = 1 ∨ client.compact = true ∧ sent.length = 2) := by
  cases form : client.compact with
  | false =>
    obtain ⟨packet,fits,sent⟩ := chunkRound_sends values byte client (roomy _) sensorId startSequence positive form
    rw [ThermometerClient.getHistoryChunk_full form,chunkRead_connection]
    exact ⟨[(_,packet)],sent,List.forall_mem_singleton.mpr fits,.inl rfl⟩
  | true =>
    obtain ⟨packet,fits,sent⟩ := chunkRound_sends values byte client (roomy _) sensorId startSequence positive form
    rcases ran : client.chunkRound (clientConfig cfg) (recorded transport) sensorId.number startSequence.toNat count true with
      ⟨answer,later⟩
    rw [ran] at sent
    by_cases refused : ∃ message, answer = .error (.protocol message (some .invalidCommand))
    · -- The second request is counted anew, for the full form.
      obtain ⟨message,rfl⟩ := refused
      obtain ⟨second,fitsToo,sentToo⟩ := chunkRound_sends values byte { later with compactHistorySupported := some false }
        (roomy _) sensorId startSequence positive rfl
      rw [ThermometerClient.getHistoryChunk_refused form ran,chunkRead_connection]
      refine ⟨[(transport.mtuSize client.connection.1,packet),(transport.mtuSize later.connection.1,second)],?_,?_,
        .inr ⟨rfl,rfl⟩⟩
      · exact (sentToo.trans (congrArg (· ++ _) sent)).trans (List.append_assoc _ _ _)
      · exact List.forall_mem_cons.mpr ⟨fits,List.forall_mem_singleton.mpr fitsToo⟩
    · have kept : ∀ message, (client.chunkRound (clientConfig cfg) (recorded transport) sensorId.number startSequence.toNat
          count true).1 ≠ .error (.protocol message (some .invalidCommand)) := by
        rw [ran]
        exact fun message same => refused ⟨message,same⟩
      rw [ThermometerClient.getHistoryChunk_compact form kept,chunkRead_connection,ran]
      exact ⟨[(_,packet)],sent,List.forall_mem_singleton.mpr fits,.inl rfl⟩

-- The history loop passes on at least one record; what the client makes of it is built and
-- fits, before and after the compact form is refused.
theorem chunk_requests_fit (values : SharedValues cfg) (byte : cfg.maxCompactHistoryRecords ≤ 255) (transport : Transport σ)
    (roomy : ∀ s, Roomy (transport.mtuSize s)) (sensorId : SensorId) (startSequence : UInt32) :
    (∀ (client : ThermometerClient σ) (remaining : Int), 1 ≤ remaining →
      1 ≤ min (client.recordsPerChunk (clientConfig cfg) transport) remaining) ∧
    ∀ count : Int, 1 ≤ count →
      (∀ (client : ThermometerClient σ) (requestId : UInt16), ∃ packet,
        buildHistoryChunkRequest (clientConfig cfg) requestId.toNat sensorId.number startSequence.toNat
          (min count (client.recordsPerChunk (clientConfig cfg) transport)) client.compact = .ok packet ∧
        Fits cfg sensorId startSequence (transport.mtuSize client.connection) packet) ∧
      ∀ client : ThermometerClient (σ × Sent), ∃ sent : Sent,
        (client.getHistoryChunk (clientConfig cfg) (recorded transport) sensorId.number startSequence.toNat
          count).2.connection.2 = client.connection.2 ++ sent ∧
        (∀ entry ∈ sent, Fits cfg sensorId startSequence entry.1 entry.2) ∧
        (sent.length = 1 ∨ client.compact = true ∧ sent.length = 2) := by
  refine ⟨fun client remaining some => ?_,fun count some => ⟨fun client requestId => ?_,fun client => ?_⟩⟩
  · exact Int.le_min.mpr ⟨(recordsPerChunk_bounds values client (roomy _)).1,some⟩
  · exact build_fits values byte client (roomy _) requestId sensorId startSequence some
  · exact getHistoryChunk_sends values byte roomy client sensorId startSequence some

-- The smallest MTU, and a firmware that does not know the compact form.
theorem chunk_requests_fit_frost :
    let client : ThermometerClient ((Device frostConfig × ProtocolSession) × Sent) := ⟨none,9,none,((frostDevice,openSession),[])⟩
    ∃ sent : Sent, (client.getHistoryChunk (clientConfig frostConfig)
        (recorded (firmwareTransport frostConfig (olderFirmware frostConfig.maxPacketSize ⟨0,.replicate 16 0⟩) fun _ => 23))
        1 1 40).2.connection.2 = sent ∧
      (∀ entry ∈ sent, Fits frostConfig 0 1 entry.1 entry.2) ∧ (sent.length = 1 ∨ client.compact = true ∧ sent.length = 2) :=
  ((chunk_requests_fit (shippedConfig_values [] fun _ _ => none) (by decide)
    (firmwareTransport frostConfig (olderFirmware frostConfig.maxPacketSize ⟨0,.replicate 16 0⟩) fun _ => 23)
    (fun _ => Nat.le_refl 22) 0 1).2 40 (by decide)).2 ⟨none,9,none,((frostDevice,openSession),[])⟩

end Thermometer.Link
