import Thermometer.Link.DeviceSession
import Thermometer.Client.HistoryDelivery

-- The history synchronizer over the firmware: the device samples on, other tasks make
-- requests in between, and every exchange may fail.
namespace Thermometer.Link
open Memory Wire Struct Firmware Wrapping
open Client (HistoryRecordValue HistoryChunk SensorId Surroundings ServiceConfig Recorder)
open Client.Protocol (ThermometerClient Transport Response buildRequest buildHistoryChunkRequest chunkOpcode chunkRequest)

variable {cfg : FirmwareConfig} {script : Nat → Encounter} {mtuSize : Nat} {s later : DeviceSession cfg} {name : Opcode}
  {payload : List UInt8} {bootId : UInt32} {now : List Event}

inductive OtherRequest where
  | current
  | display (sensorId : Int) (enabled : Bool)

-- Everything of the service but its client. A request is submitted to the scheduler, which
-- may refuse it or let others pass.
structure Service (ρ : Type) where
  settings : ServiceConfig
  monotonic : ρ → Rat × ρ
  utcNow : ρ → Rat × ρ
  sleep : Client.Call ρ Unit
  currentAnchor : ρ → Option Client.CurrentSnapshot × Option Rat
  publishCurrent : Client.CurrentSnapshot → Rat → Rat → Client.Call ρ Unit
  submit : Client.Call ρ (List OtherRequest)

section
variable {σ ρ : Type} (cfg : FirmwareConfig) (transport : Transport σ) (service : Service ρ)

def OtherRequest.perform (client : ThermometerClient σ) : OtherRequest → ThermometerClient σ
  | .current => (client.getCurrent (clientConfig cfg) transport).2
  | .display sensorId enabled => (client.setDisplay (clientConfig cfg) transport sensorId enabled).2

def onService {α : Type} (action : ρ → α × ρ) (s : ThermometerClient σ × ρ) : α × ThermometerClient σ × ρ :=
  let (result,rest) := action s.2
  (result,s.1,rest)

def submitted {α : Type} (action : ThermometerClient σ → Except Client.Failure α × ThermometerClient σ) :
    Client.Call (ThermometerClient σ × ρ) α := fun s =>
  match service.submit s.2 with
  | (.error failure,rest) => (.error failure,s.1,rest)
  | (.ok others,rest) =>
    let (result,client) := action (others.foldl (OtherRequest.perform cfg transport) s.1)
    (result,client,rest)

def anchorOf (snapshot : Client.Protocol.CurrentSnapshot) : Client.CurrentSnapshot :=
  ⟨snapshot.bootId,snapshot.newestSequence⟩

-- The time limit of a request shows as the fate of its exchange.
def surroundings : Surroundings (ThermometerClient σ × ρ) where
  settings := service.settings
  monotonic := onService service.monotonic
  utcNow := onService service.utcNow
  sleep := onService service.sleep
  currentAnchor s := service.currentAnchor s.2
  publishCurrent anchor observed limit := onService (service.publishCurrent anchor observed limit)
  recordsPerChunk s := (.ok (s.1.recordsPerChunk (clientConfig cfg) transport),s)
  getHistoryMeta _ := submitted cfg transport service fun client => client.getHistoryMeta (clientConfig cfg) transport
  getCurrent _ := submitted cfg transport service fun client =>
    let (result,client) := client.getCurrent (clientConfig cfg) transport
    (result.map anchorOf,client)
  getHistoryChunk sensorId startSequence count _ := submitted cfg transport service fun client =>
    client.getHistoryChunk (clientConfig cfg) transport sensorId.number startSequence.toNat count

variable {cfg transport service}

theorem surroundings_getHistoryMeta (limit : Rat) : (surroundings cfg transport service).getHistoryMeta limit =
    submitted cfg transport service fun client => client.getHistoryMeta (clientConfig cfg) transport := rfl

theorem surroundings_getHistoryChunk (sensorId : SensorId) (startSequence : UInt32) (count : Int) (limit : Rat) :
    (surroundings cfg transport service).getHistoryChunk sensorId startSequence count limit =
      submitted cfg transport service fun client =>
        client.getHistoryChunk (clientConfig cfg) transport sensorId.number startSequence.toNat count := rfl

end

def Reliable (script : Nat → Encounter) : Prop := ∀ n, (script n).fate = .answered

def Moves (script : Nat → Encounter) (s later : DeviceSession cfg) : Prop :=
  (∃ events, Calm events ∧ later.thermometer = run s.thermometer events) ∧ (Reliable script → Open s → Open later)

theorem Moves.refl (s : DeviceSession cfg) : Moves script s s := ⟨⟨[],List.not_mem_nil,rfl⟩,fun _ opened => opened⟩

theorem Moves.trans {middle : DeviceSession cfg} (first : Moves script s middle) (second : Moves script middle later) :
    Moves script s later := by
  obtain ⟨⟨before,calm,ran⟩,stays⟩ := first
  obtain ⟨⟨after,calmToo,ranOn⟩,staysOn⟩ := second
  refine ⟨⟨before ++ after,calm_append calm calmToo,?_⟩,fun reliable opened => staysOn reliable (stays reliable opened)⟩
  rw [ranOn,ran,run_append]

-- The requests of this client have at most six bytes behind the header.
theorem small_fits (values : SharedValues cfg) (small : payload.length ≤ 14) :
    headerSize + payload.length ≤ cfg.maxPacketSize := by
  have full : headerSize + historyChunkPrefixSize + cfg.maxHistoryRecords * historyRecordSize ≤ cfg.maxPacketSize :=
    Nat.le_max_left _ _
  have record : historyRecordSize ≤ cfg.maxHistoryRecords * historyRecordSize := Nat.le_mul_of_pos_left _ values.positive
  simp only [headerSize,historyChunkPrefixSize,historyRecordSize] at *
  omega

theorem exchange_moves (values : SharedValues cfg) (calm : ∀ n, Calm (script n).events) (begins : name ≠ .authBegin)
    (proves : name ≠ .authProve) (plain : name ≠ .getHistoryMeta) (requestId : UInt16) (small : payload.length ≤ 14)
    (s : DeviceSession cfg) :
    Moves script s (s.exchange script (requestPacket cfg.auth.protocolVersion name.value requestId payload)).2 := by
  have short : payload.length < 65536 := by omega
  have ends := exchange_ends values calm begins proves requestId payload short s
  refine ⟨?_,fun reliable opened => ?_⟩
  · dsimp only at ends
    generalize s.exchange script (requestPacket cfg.auth.protocolVersion name.value requestId payload) = exchanged at ends
    generalize parsed cfg name requestId exchanged.1 = result at ends
    generalize exchanged.2 = later at ends
    cases ends with
    | lost failure events later quiet ran => exact ⟨events,quiet plain,ran⟩
    | served events platform later quiet changed =>
      have affected : Affects name (s.pass events).server.device s.server.session (answerDispatch cfg.maxPacketSize
        (s.pass events).server.device s.server.session name.value platform payload) :=
          answerDispatch_affects begins proves payload
      obtain ⟨_,own,alone,ran⟩ := affected
      refine ⟨events ++ own,calm_append quiet (alone plain),?_⟩
      rw [run_append]
      exact (congrArg Device.thermometer changed).trans ran
  · exact (exchange_open values begins proves requestId payload (small_fits values small) short s opened
      (reliable s.exchanges)).2.2

variable {client : ThermometerClient (DeviceSession cfg)}

theorem request_exchange (client : ThermometerClient (DeviceSession cfg)) (short : payload.length < 65536) :
    let exchanged := client.connection.exchange script
      (requestPacket cfg.auth.protocolVersion name.value (client.requestId + 1) payload)
    client.request (clientConfig cfg) (deviceTransport cfg script mtuSize) name payload =
      (parsed cfg name (client.requestId + 1) exchanged.1,{ client.nextRequestId with connection := exchanged.2 }) := by
  have built : buildRequest (clientConfig cfg) name client.nextRequestId.requestId.toNat payload =
      .ok (requestPacket cfg.auth.protocolVersion name.value client.nextRequestId.requestId payload) :=
    buildRequest_packet (clientConfig cfg) name client.nextRequestId.requestId short
  unfold ThermometerClient.request
  dsimp only
  rw [built]
  rfl

theorem getCurrent_moves (values : SharedValues cfg) (calm : ∀ n, Calm (script n).events)
    (client : ThermometerClient (DeviceSession cfg)) :
    Moves script client.connection (client.getCurrent (clientConfig cfg) (deviceTransport cfg script mtuSize)).2.connection := by
  unfold ThermometerClient.getCurrent
  rw [request_exchange client (by simp)]
  exact exchange_moves values calm (by decide) (by decide) (by decide) _ (by simp) _

theorem setDisplay_moves (values : SharedValues cfg) (calm : ∀ n, Calm (script n).events)
    (client : ThermometerClient (DeviceSession cfg)) (sensorId : Int) (enabled : Bool) :
    Moves script client.connection
      (client.setDisplay (clientConfig cfg) (deviceTransport cfg script mtuSize) sensorId enabled).2.connection := by
  unfold ThermometerClient.setDisplay
  dsimp only
  split
  · exact Moves.refl _
  · rename_i packet built
    simp only [Client.Protocol.buildSetDisplayRequest,bind,Except.bind] at built
    split at built
    · cases built
    · obtain ⟨_,_,_,rfl⟩ := buildRequest_ok built
      exact exchange_moves values calm (by decide) (by decide) (by decide) _ (by simp) _

theorem others_move (values : SharedValues cfg) (calm : ∀ n, Calm (script n).events) (mtuSize : Nat) (others : List OtherRequest)
    (client : ThermometerClient (DeviceSession cfg)) :
    Moves script client.connection
      (others.foldl (OtherRequest.perform cfg (deviceTransport cfg script mtuSize)) client).connection := by
  induction others generalizing client with
  | nil => exact Moves.refl _
  | cons other rest ih =>
    refine Moves.trans ?_ (ih _)
    cases other with
    | current => exact getCurrent_moves values calm client
    | display sensorId enabled => exact setDisplay_moves values calm client sensorId enabled

theorem buildHistoryChunk_ok {config : Client.Protocol.ProtocolConfig} {sensorId startSequence count : Int} {compact : Bool}
    {requestId : UInt16} {sent : List UInt8}
    (built : buildHistoryChunkRequest config requestId.toNat sensorId startSequence count compact = .ok sent) :
    sent = requestPacket config.protocolVersion (chunkOpcode compact).value requestId
      (chunkRequest (.ofNat sensorId.toNat) (.ofNat startSequence.toNat) (.ofNat count.toNat)) := by
  simp only [buildHistoryChunkRequest,bind,Except.bind] at built
  split at built
  · cases built
  · split at built
    · cases built
    · split at built
      · cases built
      · obtain ⟨_,_,_,rfl⟩ := buildRequest_ok built
        simp

theorem chunkOpcode_plain (compact : Bool) :
    chunkOpcode compact ≠ .authBegin ∧ chunkOpcode compact ≠ .authProve ∧ chunkOpcode compact ≠ .getHistoryMeta := by
  cases compact <;> decide

def Copied (s : DeviceSession cfg) (sensorId startSequence : Int) (chunk : HistoryChunk) : Prop :=
  ∃ events limit records, Calm events ∧
    copyHistory (run s.thermometer events) (.ofNat sensorId.toNat) (.ofNat startSequence.toNat) limit = some records ∧
    chunk.records = records.map recordValue

def requestedCount (cfg : FirmwareConfig) (script : Nat → Encounter) (mtuSize : Nat)
    (client : ThermometerClient (DeviceSession cfg)) (count : Int) : Int :=
  min count (client.nextRequestId.recordsPerChunk (clientConfig cfg) (deviceTransport cfg script mtuSize))

def sentRound (script : Nat → Encounter) (client : ThermometerClient (DeviceSession cfg)) (sensorId startSequence requested : Int)
    (compact : Bool) : Except Client.Failure Response × ThermometerClient (DeviceSession cfg) :=
  let exchanged := client.connection.exchange script (requestPacket cfg.auth.protocolVersion (chunkOpcode compact).value
    (client.requestId + 1) (chunkRequest (.ofNat sensorId.toNat) (.ofNat startSequence.toNat) (.ofNat requested.toNat)))
  (parsed cfg (chunkOpcode compact) (client.requestId + 1) exchanged.1,{ client.nextRequestId with connection := exchanged.2 })

theorem chunkRound_sent (client : ThermometerClient (DeviceSession cfg)) (sensorId startSequence count : Int) (compact : Bool)
    (built : buildHistoryChunkRequest (clientConfig cfg) client.nextRequestId.requestId.toNat sensorId startSequence
      (requestedCount cfg script mtuSize client count) compact = .ok sent) :
    client.chunkRound (clientConfig cfg) (deviceTransport cfg script mtuSize) sensorId startSequence count compact =
      sentRound script client sensorId startSequence (requestedCount cfg script mtuSize client count) compact := by
  have packed := buildHistoryChunk_ok built
  unfold ThermometerClient.chunkRound
  unfold requestedCount at built packed ⊢
  dsimp only
  rw [built]
  dsimp only
  rw [packed]
  rfl

theorem chunkRound_cases (script : Nat → Encounter) (mtuSize : Nat) (client : ThermometerClient (DeviceSession cfg))
    (sensorId startSequence count : Int) (compact : Bool) :
    let round := client.chunkRound (clientConfig cfg) (deviceTransport cfg script mtuSize) sensorId startSequence count compact
    (∃ failure, round = (.error failure,client.nextRequestId)) ∨
      round = sentRound script client sensorId startSequence (requestedCount cfg script mtuSize client count) compact := by
  intro round
  cases built : buildHistoryChunkRequest (clientConfig cfg) client.nextRequestId.requestId.toNat sensorId startSequence
      (requestedCount cfg script mtuSize client count) compact with
  | error failure =>
    refine .inl ⟨failure,?_⟩
    simp only [round,ThermometerClient.chunkRound]
    unfold requestedCount at built
    rw [built]
  | ok sent => exact .inr (chunkRound_sent client sensorId startSequence count compact built)

theorem chunkRound_moves (values : SharedValues cfg) (calm : ∀ n, Calm (script n).events) (mtuSize : Nat)
    (client : ThermometerClient (DeviceSession cfg)) (sensorId startSequence count : Int) (compact : Bool) :
    Moves script client.connection (client.chunkRound (clientConfig cfg) (deviceTransport cfg script mtuSize) sensorId
      startSequence count compact).2.connection := by
  obtain ⟨begins,proves,plain⟩ := chunkOpcode_plain compact
  rcases chunkRound_cases script mtuSize client sensorId startSequence count compact with
    ⟨failure,refused⟩ | sent
  · rw [refused]
    exact Moves.refl _
  · rw [sent]
    exact exchange_moves values calm begins proves plain _ (by simp [chunkRequest]) _

theorem answered_copied {device : Device cfg} {session : ProtocolSession} (numbered : Numbered device.thermometer)
    (sensorId startSequence count : Int) (compact : Bool) (platform : Platform) (requestId : UInt16) :
    let answered := answerDispatch cfg.maxPacketSize device session (chunkOpcode compact).value platform
      (chunkRequest (.ofNat sensorId.toNat) (.ofNat startSequence.toNat) (.ofNat count.toNat))
    answered.status = .success → ∃ chunk limit records, Client.Protocol.decodeHistoryChunk
        ⟨cfg.auth.protocolVersion,chunkOpcode compact,requestId,.success,answered.payload⟩ = .ok chunk ∧
      copyHistory device.thermometer (.ofNat sensorId.toNat) (.ofNat startSequence.toNat) limit = some records ∧
      chunk.records = records.map recordValue := by
  intro answered success
  have open_ : session.authentication.authenticated = true := by
    by_contra closed
    cases compact <;> simp [answered,answerDispatch,chunkOpcode,closed] at success
  simp only [answered,answerDispatch_chunk open_,answerGetHistoryChunk_request] at success ⊢
  obtain ⟨answer,decoded,reports⟩ := getHistoryChunk_faithful numbered sensorId startSequence count compact success
    cfg.auth.protocolVersion requestId
  cases reports with
  | historyChunk copied =>
    simp only [ClientRequest.decode,ClientRequest.opcode] at decoded
    cases read : Client.Protocol.decodeHistoryChunk ⟨cfg.auth.protocolVersion,chunkOpcode compact,requestId,.success,
        (answerChunk cfg.maxPacketSize device session compact (.ofNat sensorId.toNat) (.ofNat startSequence.toNat)
          (.ofNat count.toNat)).payload⟩ with
    | error failure => simp [read] at decoded
    | ok chunk =>
      rw [read] at decoded
      cases decoded
      exact ⟨_,_,_,rfl,copied,rfl⟩

theorem chunkRound_copied (values : SharedValues cfg) (calm : ∀ n, Calm (script n).events)
    (reached : client.connection.thermometer = run (start cfg.device bootId) now) (sensorId startSequence count : Int)
    (compact : Bool) (answered : (client.chunkRound (clientConfig cfg) (deviceTransport cfg script mtuSize) sensorId
      startSequence count compact).1 = .ok response) :
    ∃ chunk, Client.Protocol.decodeHistoryChunk response = .ok chunk ∧
      Copied client.connection sensorId startSequence chunk := by
  obtain ⟨begins,proves,_⟩ := chunkOpcode_plain compact
  rcases chunkRound_cases script mtuSize client sensorId startSequence count compact with
    ⟨failure,refused⟩ | sent
  · rw [refused] at answered
    cases answered
  · rw [sent] at answered
    generalize requestedCount cfg script mtuSize client count = requested at answered
    have ends := exchange_ends values calm begins proves (client.requestId + 1)
      (chunkRequest (.ofNat sensorId.toNat) (.ofNat startSequence.toNat) (.ofNat requested.toNat)) (by simp [chunkRequest])
      client.connection
    dsimp only [sentRound] at answered ends
    rw [answered] at ends
    obtain ⟨events,platform,quiet,_,success,rfl⟩ := ends.ok
    have numbered : Numbered (client.connection.pass events).server.device.thermometer := by
      have there : (client.connection.pass events).server.device.thermometer = run (start cfg.device bootId) (now ++ events) := by
        rw [run_append,← reached]
        rfl
      rw [there]
      exact run_numbered cfg.device bootId _
    obtain ⟨chunk,limit,records,decoded,copied,same⟩ := answered_copied numbered sensorId startSequence _ compact platform
      (client.requestId + 1) success
    exact ⟨chunk,decoded,events,limit,records,quiet,copied,same⟩

theorem Copied.earlier {middle : DeviceSession cfg} {sensorId startSequence : Int}
    (copied : Copied middle sensorId startSequence chunk) (moved : Moves script s middle) :
    Copied s sensorId startSequence chunk := by
  obtain ⟨after,limit,records,calm,found,same⟩ := copied
  obtain ⟨⟨before,quiet,ran⟩,_⟩ := moved
  refine ⟨before ++ after,limit,records,calm_append quiet calm,?_,same⟩
  rw [run_append,← ran]
  exact found

theorem Moves.reached (moved : Moves script s later) (reached : s.thermometer = run (start cfg.device bootId) now) :
    ∃ events, Calm events ∧ later.thermometer = run (start cfg.device bootId) (now ++ events) := by
  obtain ⟨⟨events,calm,ran⟩,_⟩ := moved
  exact ⟨events,calm,by rw [ran,reached,run_append]⟩

theorem chunkRead_ok {compact : Bool} {round : Except Client.Failure Response × ThermometerClient (DeviceSession cfg)}
    (read : (ThermometerClient.chunkRead compact round).1 = .ok chunk) :
    ∃ response, round.1 = .ok response ∧ Client.Protocol.decodeHistoryChunk response = .ok chunk := by
  obtain ⟨response | failure,later⟩ := round
  · cases read
  · exact ⟨_,rfl,read⟩

theorem chunkRead_copied (values : SharedValues cfg) (calm : ∀ n, Calm (script n).events)
    (client : ThermometerClient (DeviceSession cfg))
    (reached : client.connection.thermometer = run (start cfg.device bootId) now) (sensorId startSequence count : Int)
    (compact : Bool) {chunk : HistoryChunk}
    (read : (ThermometerClient.chunkRead compact (client.chunkRound (clientConfig cfg) (deviceTransport cfg script mtuSize)
      sensorId startSequence count compact)).1 = .ok chunk) :
    Copied client.connection sensorId startSequence chunk := by
  obtain ⟨response,answered,decoded⟩ := chunkRead_ok read
  obtain ⟨other,same,copied⟩ := chunkRound_copied values calm reached sensorId startSequence count compact answered
  rw [decoded] at same
  cases same
  exact copied

theorem getHistoryChunk_copied (values : SharedValues cfg) (calm : ∀ n, Calm (script n).events)
    (reached : client.connection.thermometer = run (start cfg.device bootId) now) (sensorId startSequence count : Int) :
    let got := client.getHistoryChunk (clientConfig cfg) (deviceTransport cfg script mtuSize) sensorId startSequence count
    Moves script client.connection got.2.connection ∧
      ∀ chunk, got.1 = .ok chunk → Copied client.connection sensorId startSequence chunk := by
  intro got
  have first := chunkRound_moves values calm mtuSize client sensorId startSequence count
  cases form : client.compact with
  | false =>
    simp only [got,ThermometerClient.getHistoryChunk_full form,chunkRead_connection]
    exact ⟨first false,fun chunk => chunkRead_copied values calm client reached sensorId startSequence count false⟩
  | true =>
    rcases ran : client.chunkRound (clientConfig cfg) (deviceTransport cfg script mtuSize) sensorId startSequence count true with
      ⟨answer,later⟩
    by_cases refused : ∃ message, answer = .error (.protocol message (some .invalidCommand))
    · obtain ⟨message,rfl⟩ := refused
      have moved := first true
      rw [ran] at moved
      obtain ⟨events,_,there⟩ := moved.reached reached
      simp only [got,ThermometerClient.getHistoryChunk_refused form ran,chunkRead_connection]
      refine ⟨moved.trans (chunkRound_moves values calm mtuSize { later with compactHistorySupported := some false } _ _ _ _),?_⟩
      intro chunk read
      have copied : Copied later.connection sensorId startSequence chunk :=
        chunkRead_copied values calm { later with compactHistorySupported := some false } there sensorId startSequence
          count false read
      exact copied.earlier moved
    · have kept : ∀ message, (client.chunkRound (clientConfig cfg) (deviceTransport cfg script mtuSize) sensorId startSequence
          count true).1 ≠ .error (.protocol message (some .invalidCommand)) := by
        rw [ran]
        exact fun message same => refused ⟨message,same⟩
      simp only [got,ThermometerClient.getHistoryChunk_compact form kept,chunkRead_connection]
      exact ⟨first true,fun chunk => chunkRead_copied values calm client reached sensorId startSequence count true⟩

theorem answered_meta {device : Device cfg} {session : ProtocolSession} (platform : Platform) (requestId : UInt16) :
    let answered := answerDispatch cfg.maxPacketSize device session (Opcode.value .getHistoryMeta) platform []
    answered.status = .success →
      answered.device.thermometer = (getHistoryMeta device.thermometer).2 ∧
      Client.Protocol.decodeHistoryMeta ⟨cfg.auth.protocolVersion,.getHistoryMeta,requestId,.success,answered.payload⟩ =
        .ok (metaValue (getHistoryMeta device.thermometer).1) := by
  simp only [answerDispatch,opcode_ofByte]
  intro success
  split at success
  · rename_i authenticated
    simp only [if_pos authenticated,answerAuthenticated,opcode_ofByte,List.length_nil,ne_eq,not_true_eq_false,if_false,
      answerGetHistoryMeta] at success ⊢
    split at success
    · cases success
    · rename_i room
      rw [if_neg room]
      exact ⟨rfl,decodeHistoryMeta_bytes _ _ _ _⟩
  · cases success

theorem getHistoryMeta_exchange (client : ThermometerClient (DeviceSession cfg)) :
    let exchanged := client.connection.exchange script
      (requestPacket cfg.auth.protocolVersion (Opcode.value .getHistoryMeta) (client.requestId + 1) [])
    client.getHistoryMeta (clientConfig cfg) (deviceTransport cfg script mtuSize) =
      ((parsed cfg .getHistoryMeta (client.requestId + 1) exchanged.1).bind Client.Protocol.decodeHistoryMeta,
        { client.nextRequestId with connection := exchanged.2 }) := by
  unfold ThermometerClient.getHistoryMeta
  rw [request_exchange client (by simp)]

theorem getHistoryMeta_asked (values : SharedValues cfg) (calm : ∀ n, Calm (script n).events) (mtuSize : Nat)
    (client : ThermometerClient (DeviceSession cfg)) :
    let got := client.getHistoryMeta (clientConfig cfg) (deviceTransport cfg script mtuSize)
    (∀ answer, got.1 = .ok answer → ∃ events, Calm events ∧
      got.2.connection.thermometer = run client.connection.thermometer (events ++ [.getHistoryMeta]) ∧
      answer = metaValue (getHistoryMeta (run client.connection.thermometer events)).1) ∧
    ∃ events, got.2.connection.thermometer = run client.connection.thermometer events := by
  intro got
  have ends : Exchanged client.connection .getHistoryMeta (client.requestId + 1) [] _ _ :=
    exchange_ends values calm (by decide) (by decide) (client.requestId + 1) [] (by simp) client.connection
  simp only [got,getHistoryMeta_exchange]
  generalize client.connection.exchange script _ = exchanged at ends
  generalize parsed cfg .getHistoryMeta (client.requestId + 1) exchanged.1 = result at ends
  cases ends with
  | lost failure events later _ ran =>
    refine ⟨fun answer impossible => ?_,events,ran⟩
    cases impossible
  | served events platform later quiet changed =>
    have affected : Affects .getHistoryMeta (client.connection.pass events).server.device client.connection.server.session
        (answerDispatch cfg.maxPacketSize (client.connection.pass events).server.device client.connection.server.session
          (Opcode.value .getHistoryMeta) platform []) := answerDispatch_affects (by decide) (by decide) []
    obtain ⟨_,own,_,ran⟩ := affected
    refine ⟨fun answer received => ?_,events ++ own,?_⟩
    · unfold accept at received
      split at received
      · rename_i success
        obtain ⟨asked,decoded⟩ := answered_meta platform (client.requestId + 1) success
        simp only [Except.bind] at received
        rw [decoded] at received
        cases received
        refine ⟨events,quiet,?_,rfl⟩
        rw [run_append]
        exact (congrArg Device.thermometer changed).trans asked
      · cases received
    · rw [run_append]
      exact (congrArg Device.thermometer changed).trans ran

theorem getHistoryMeta_open (values : SharedValues cfg) (client : ThermometerClient (DeviceSession cfg))
    (reliable : Reliable script) (opened : Open client.connection) :
    Open (client.getHistoryMeta (clientConfig cfg) (deviceTransport cfg script mtuSize)).2.connection := by
  rw [getHistoryMeta_exchange]
  exact (exchange_open values (by decide) (by decide) (client.requestId + 1) [] (small_fits values (by simp)) (by simp)
    client.connection opened (reliable _)).2.2

variable {ρ : Type}

-- The points of the past are the events of the boot so far. While the link is `live`, it
-- also stays open.
def deviceRecorder (cfg : FirmwareConfig) (bootId : UInt32) (live : Prop) (ρ : Type) :
    Recorder (ThermometerClient (DeviceSession cfg) × ρ) (List Event) where
  Before past now := past <+: now
  refl := List.prefix_refl
  trans := List.IsPrefix.trans
  logged now sensorId := (bootLog cfg.device bootId sensorId now).map recordValue
  held now sensorId := (lastRecords cfg.device.capacity.size (bootLog cfg.device bootId sensorId now)).map recordValue
  grows before sensorId := (bootLog_begins cfg.device bootId sensorId before).map recordValue
  kept _ _ := (lastRecords_suffix _ _).map recordValue
  At s now asked := s.1.connection.thermometer = run (start cfg.device bootId) now ∧ lastAsked [] now none = asked ∧
    (live → Open s.1.connection)
  past here := (run_frozenBy cfg.device bootId _).2 _ here.2.1

variable {live : Prop} {client later : ThermometerClient (DeviceSession cfg)} {rest after : ρ}

theorem moves_goes {asked : Option (List Event)} (lasting : live → Reliable script)
    (here : (deviceRecorder cfg bootId live ρ).At (client,rest) now asked)
    (moved : Moves script client.connection later.connection) :
    (deviceRecorder cfg bootId live ρ).Goes now asked (later,after) := by
  obtain ⟨reached,frozen,opened⟩ := here
  obtain ⟨events,calm,there⟩ := moved.reached reached
  refine ⟨now ++ events,List.prefix_append _ _,there,?_,fun alive => moved.2 (lasting alive) (opened alive)⟩
  rw [lastAsked_append,frozen]
  exact lastAsked_calm _ _ _ calm

theorem service_quiet {α : Type} (action : ρ → α × ρ) :
    (deviceRecorder cfg bootId live ρ).Quiet (onService action) :=
  fun _ now _ here => ⟨now,List.prefix_refl _,here⟩

theorem submitted_quiet {α : Type} (values : SharedValues cfg) (calm : ∀ n, Calm (script n).events)
    (lasting : live → Reliable script) (service : Service ρ)
    (action : ThermometerClient (DeviceSession cfg) → Except Client.Failure α × ThermometerClient (DeviceSession cfg))
    (moves : ∀ (client : ThermometerClient (DeviceSession cfg)) (now : List Event),
      client.connection.thermometer = run (start cfg.device bootId) now →
      Moves script client.connection (action client).2.connection) :
    (deviceRecorder cfg bootId live ρ).Quiet (submitted cfg (deviceTransport cfg script mtuSize) service action) := by
  intro s now asked here
  unfold submitted
  split
  · exact ⟨now,List.prefix_refl _,here⟩
  · rename_i others after _
    have before := others_move values calm mtuSize others s.1
    obtain ⟨events,_,there⟩ := before.reached here.1
    exact moves_goes lasting here (before.trans (moves _ _ there))

theorem submitted_ok {α : Type} {transport : Transport (DeviceSession cfg)} {service : Service ρ} {answer : α}
    {action : ThermometerClient (DeviceSession cfg) → Except Client.Failure α × ThermometerClient (DeviceSession cfg)}
    {s last : ThermometerClient (DeviceSession cfg) × ρ}
    (answered : submitted cfg transport service action s = (.ok answer,last)) :
    ∃ others : List OtherRequest, (action (others.foldl (OtherRequest.perform cfg transport) s.1)).1 = .ok answer ∧
      last.1 = (action (others.foldl (OtherRequest.perform cfg transport) s.1)).2 := by
  unfold submitted at answered
  split at answered
  · cases answered
  · rename_i others after _
    obtain ⟨told,same⟩ := Prod.mk.inj answered
    exact ⟨others,told,(congrArg Prod.fst same).symm⟩

theorem sensorIndex_number (sensorId : SensorId) : sensorIndex (.ofNat sensorId.number) = some sensorId := by
  revert sensorId
  decide

theorem Copied.held {sensorId : SensorId} {startSequence : Int} {asked : List Event} {chunk : HistoryChunk}
    (copied : Copied s sensorId.number startSequence chunk) (reached : s.thermometer = run (start cfg.device bootId) now)
    (frozen : lastAsked [] now none = some asked) :
    ∀ record ∈ chunk.records,
      record ∈ (lastRecords cfg.device.capacity.size (bootLog cfg.device bootId sensorId asked)).map recordValue := by
  obtain ⟨events,limit,records,calm,found,same⟩ := copied
  have shown : shownEvents (now ++ events) = asked := by
    unfold shownEvents
    rw [lastAsked_append,frozen,lastAsked_calm _ _ _ calm]
    rfl
  rw [reached,← run_append,Int.toNat_natCast,copyHistory_shown cfg.device bootId (now ++ events) (sensorIndex_number sensorId),shown] at found
  have inside := (copied_span found).1
  rw [run_contents] at inside
  intro record member
  rw [same] at member
  obtain ⟨sample,present,rfl⟩ := List.mem_map.mp member
  exact List.mem_map.mpr ⟨sample,inside.subset present,rfl⟩

theorem device_serves (values : SharedValues cfg) (calm : ∀ n, Calm (script n).events) (lasting : live → Reliable script)
    (mtuSize : Nat) (service : Service ρ) :
    (deviceRecorder cfg bootId live ρ).Serves (surroundings cfg (deviceTransport cfg script mtuSize) service) where
  monotonic := service_quiet _
  utcNow := service_quiet _
  sleep := service_quiet _
  publishCurrent _ _ _ := service_quiet _
  recordsPerChunk _ now _ here := ⟨now,List.prefix_refl _,here⟩
  getCurrent _ := submitted_quiet values calm lasting service _ fun client _ _ => getCurrent_moves values calm client
  getHistoryChunk sensorId startSequence count _ := submitted_quiet values calm lasting service _ fun client _ reached =>
    (getHistoryChunk_copied values calm reached sensorId.number startSequence.toNat count).1
  answeredChunk := by
    intro sensorId startSequence count limit s now asked chunk last here answered
    rw [surroundings_getHistoryChunk] at answered
    obtain ⟨others,told,_⟩ := submitted_ok answered
    have before := others_move values calm mtuSize others s.1
    obtain ⟨events,_,there⟩ := before.reached here.1
    have copied := (getHistoryChunk_copied values calm there sensorId.number startSequence.toNat count).2 chunk told
    exact (copied.earlier before).held here.1 here.2.1
  answeredMeta := by
    intro limit s now asked answer last here answered
    rw [surroundings_getHistoryMeta] at answered
    obtain ⟨others,told,same⟩ := submitted_ok answered
    have before := others_move values calm mtuSize others s.1
    obtain ⟨events,quiet,there⟩ := before.reached here.1
    obtain ⟨more,quietToo,arrived,rfl⟩ := (getHistoryMeta_asked values calm mtuSize
      (others.foldl (OtherRequest.perform cfg (deviceTransport cfg script mtuSize)) s.1)).1 answer told
    have request : run (start cfg.device bootId) (now ++ (events ++ more)) =
        run (others.foldl (OtherRequest.perform cfg (deviceTransport cfg script mtuSize)) s.1).connection.thermometer more := by
      rw [there,← run_append,List.append_assoc]
    refine ⟨now ++ (events ++ more),List.prefix_append _ _,⟨now ++ (events ++ more) ++ [.getHistoryMeta],
      List.prefix_append _ _,?_,?_,?_⟩,?_⟩
    · rw [same,arrived,run_append,run_append _ (now ++ (events ++ more)),request]
    · rw [lastAsked_append]
      rfl
    · intro alive
      rw [same]
      exact getHistoryMeta_open values _ (lasting alive) (before.2 (lasting alive) (here.2.2 alive))
    · intro sensorId
      rw [← request]
      have announced := run_announced cfg.device bootId sensorId (now ++ (events ++ more))
      simp only [deviceRecorder,List.map_map]
      rw [← run_contents]
      exact announced
  failedMeta := by
    intro limit s now asked failure last here answered
    rw [surroundings_getHistoryMeta] at answered
    unfold submitted at answered
    split at answered
    · cases answered
      exact ⟨asked,now,List.prefix_refl _,here⟩
    · rename_i others after _
      have before := others_move values calm mtuSize others s.1
      obtain ⟨events,_,there⟩ := before.reached here.1
      obtain ⟨_,more,arrived⟩ := getHistoryMeta_asked values calm mtuSize
        (others.foldl (OtherRequest.perform cfg (deviceTransport cfg script mtuSize)) s.1)
      obtain ⟨fresh,found⟩ := lastAsked_some now (events ++ more) asked
      obtain ⟨_,same⟩ := Prod.mk.inj answered
      subst same
      refine ⟨fresh,now ++ (events ++ more),List.prefix_append _ _,?_,?_,fun alive => ?_⟩
      · exact arrived.trans (by rw [there,← run_append,List.append_assoc])
      · rw [lastAsked_append,here.2.1]
        exact found
      · exact getHistoryMeta_open values _ (lasting alive) (before.2 (lasting alive) (here.2.2 alive))

theorem requested_earlier {live : Prop} {asked ended : List Event}
    (requested : ∃ sent ready, (deviceRecorder cfg bootId live ρ).At sent ready (some asked) ∧
      (deviceRecorder cfg bootId live ρ).Before ready ended) : asked ++ [.getHistoryMeta] <+: ended := by
  obtain ⟨_,ready,⟨_,frozen,_⟩,before⟩ := requested
  rcases lastAsked_request frozen with here | earlier
  · cases here
  · exact List.IsPrefix.trans earlier before

-- Whatever the exchanges meet: what the client returns are samples that the device took,
-- and a complete result is the rings, record by record, as they were at a metadata request.
theorem transfer_from_log (values : SharedValues cfg) (calm : ∀ n, Calm (script n).events) (mtuSize : Nat)
    (service : Service ρ) (bootId : UInt32) (before : List Event) (client : ThermometerClient (DeviceSession cfg)) (rest : ρ)
    (reached : client.connection.thermometer = run (start cfg.device bootId) before) (operation : Client.SyncOperation)
    (result : Client.Synchronized) (last : ThermometerClient (DeviceSession cfg) × ρ)
    (synchronized : Client.synchronize (surroundings cfg (deviceTransport cfg script mtuSize) service) operation (client,rest) =
      (.ok result,last)) :
    ∃ asked ended, before <+: asked ∧ asked ++ [.getHistoryMeta] <+: ended ∧
      last.1.connection.thermometer = run (start cfg.device bootId) ended ∧
      let history := result.retrieval.history
      (∀ record ∈ history.records, ∃ sample ∈ bootLog cfg.device bootId record.sensorId ended,
        record.value = recordValue sample) ∧
      (history.complete = true → ∀ sensorId, history.values sensorId =
        (lastRecords cfg.device.capacity.size (bootLog cfg.device bootId sensorId asked)).map recordValue) := by
  have serves : (deviceRecorder cfg bootId False ρ).Serves (surroundings cfg (deviceTransport cfg script mtuSize) service) :=
    device_serves values calm False.elim mtuSize service
  have here : (deviceRecorder cfg bootId False ρ).At (client,rest) before (lastAsked [] before none) :=
    ⟨reached,rfl,False.elim⟩
  obtain ⟨asked,ended,first,requested,⟨_,there,_⟩,_,logged,exact_⟩ := Recorder.synchronize_source serves here synchronized
  refine ⟨asked,ended,first,requested_earlier requested,there,?_,exact_⟩
  intro record member
  obtain ⟨sample,taken,same⟩ := List.mem_map.mp (logged record member)
  exact ⟨sample,taken,same.symm⟩

-- The first sensor is read, then the answer to a chunk request does not arrive.
def lossyScript (n : Nat) : Encounter := ⟨[.tick],⟨n,.replicate 16 0⟩,if n = 3 then .unread "disconnected" else .answered⟩

def lossyClient : ThermometerClient (DeviceSession frostConfig) where
  passkey := none
  requestId := 65535
  compactHistorySupported := none
  connection := ⟨{ serverStart frostConfig 7 (.replicate 6 1) with
    session := openSession, device := ⟨run (start _ 7) frost,.cleared⟩, linked := true },true,0⟩

def lossyService : Service Unit where
  settings := ⟨30,1,1000⟩
  monotonic rest := (0,rest)
  utcNow rest := (1000,rest)
  sleep rest := (.ok (),rest)
  currentAnchor _ := (none,none)
  publishCurrent _ _ _ rest := (.ok (),rest)
  submit rest := (.ok [],rest)

theorem transfer_from_log_lossy :
    ∃ result last ended, Client.synchronize (surroundings frostConfig (deviceTransport frostConfig lossyScript 23) lossyService)
        ⟨0,0⟩ (lossyClient,()) = (.ok result,last) ∧ (result.retrieval.history.values 0).length = 2 ∧
      ∀ record ∈ result.retrieval.history.records,
        ∃ sample ∈ bootLog frostConfig.device 7 record.sensorId ended, record.value = recordValue sample := by
  have ran : ((Client.synchronize (surroundings frostConfig (deviceTransport frostConfig lossyScript 23) lossyService) ⟨0,0⟩
      (lossyClient,())).1.toOption.map fun result => (result.retrieval.history.values 0).length) = some 2 := by
    decide +kernel
  cases synchronized : Client.synchronize (surroundings frostConfig (deviceTransport frostConfig lossyScript 23) lossyService)
      ⟨0,0⟩ (lossyClient,()) with
  | mk outcome last =>
    rw [synchronized] at ran
    cases outcome with
    | error => cases ran
    | ok result =>
      obtain ⟨_,ended,_,_,_,taken,_⟩ := transfer_from_log (shippedConfig_values [] fun _ _ => none)
        (fun n => by simp [Calm,lossyScript]) 23 lossyService 7 frost lossyClient () rfl ⟨0,0⟩ result last synchronized
      exact ⟨result,last,ended,rfl,by simpa [Except.toOption] using ran,taken⟩

end Thermometer.Link
