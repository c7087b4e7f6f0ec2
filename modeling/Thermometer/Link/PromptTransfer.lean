import Thermometer.Link.HistoryTransfer

-- Over a link that answers in time the synchronizer returns everything.
namespace Thermometer.Link
open Memory Wire Struct Firmware Wrapping
open Client (HistoryRecordValue HistoryChunk SensorId Recorder)
open Client.Protocol (ThermometerClient Response buildHistoryChunkRequest chunkOpcode chunkRequest maximumRecords)

variable {cfg : FirmwareConfig} {script : Nat → Encounter} {mtuSize : Nat} {bootId : UInt32} {now asked : List Event}
  {client : ThermometerClient (DeviceSession cfg)} {ρ : Type}

structure Service.Prompt (service : Service ρ) (deadline : Rat) : Prop where
  clock : ∀ rest, (service.monotonic rest).1 < deadline
  sleep : ∀ rest, (service.sleep rest).1 = .ok ()
  publishCurrent : ∀ anchor observed limit rest, (service.publishCurrent anchor observed limit rest).1 = .ok ()
  submit : ∀ rest, ∃ others, (service.submit rest).1 = .ok others

theorem copy_known {c : Capacity} {buffer : HistoryBuffer c} {place count : Nat}
    (numbered : buffer.contents.map (·.sequence.toNat) = span (2 ^ 32) oldest buffer.count.toNat)
    (inside : place < buffer.contents.length) (some : count ≠ 0) :
    buffer.copy buffer.contents[place].sequence count = .some ((buffer.contents.drop place).take count) := by
  have size : buffer.contents.length = buffer.count.toNat := HistoryBuffer.contents_length
  have bounded := buffer.count.toNat_lt
  have number : buffer.contents[place].sequence.toNat = (oldest + place) % 2 ^ 32 := by
    have entry := congrArg (fun numbers => numbers[place]?) numbered
    have reach : place < (span (2 ^ 32) oldest buffer.count.toNat).length := by simpa using size ▸ inside
    simpa only [List.getElem?_map,List.getElem?_eq_getElem inside,List.getElem?_eq_getElem reach,Option.map_some,
      Option.some.injEq,span_getElem] using entry
  have found : buffer.contents.findIdx (·.sequence == buffer.contents[place].sequence) = place := by
    have search := findIdx_span numbered (by omega) (size ▸ inside)
    rw [← number] at search
    refine Eq.trans ?_ search
    congr 1
    funext record
    rw [Bool.eq_iff_iff,beq_iff_eq,beq_iff_eq,UInt32.toNat_inj]
  have copied := buffer.copy_contents buffer.contents[place].sequence count
  dsimp only at copied
  rw [found,if_neg (by omega)] at copied
  exact copied

theorem copyHistory_place_known (cfg : DeviceConfig) (bootId : UInt32) (events : List Event) (sensorId : SensorId)
    {place count : Nat}
    (inside : place < (lastRecords cfg.capacity.size (bootLog cfg bootId sensorId (shownEvents events))).length)
    (some : count ≠ 0) :
    copyHistory (run (start cfg bootId) events) (.ofNat sensorId.number)
        (lastRecords cfg.capacity.size (bootLog cfg bootId sensorId (shownEvents events)))[place].sequence count =
      .some (((lastRecords cfg.capacity.size (bootLog cfg bootId sensorId (shownEvents events))).drop place).take count) := by
  have contents := run_contents cfg bootId sensorId (shownEvents events)
  rw [copyHistory_shown cfg bootId events (sensorIndex_number sensorId)]
  simp only [← contents] at inside ⊢
  exact copy_known (run_announced cfg bootId sensorId (shownEvents events)) inside some

theorem sensorId_known (sensorId : SensorId) :
    ¬ (UInt8.ofNat sensorId.number = 0 ∨ sensorCount < (UInt8.ofNat sensorId.number).toNat) := by
  revert sensorId
  decide

theorem sensorId_byte (sensorId : SensorId) : (UInt8.ofNat sensorId.number).toNat = sensorId.number := by
  revert sensorId
  decide

theorem answered_chunk (values : SharedValues cfg) {device : Device cfg} {session : ProtocolSession} {events : List Event}
    (reached : device.thermometer = run (start cfg.device bootId) events)
    (authenticated : session.authentication.authenticated = true) (platform : Platform) (compact : Bool) (requestId : UInt16)
    (sensorId : SensorId) {place : Nat} {requested : UInt8} (some : requested ≠ 0)
    (inside : place < (lastRecords cfg.device.capacity.size (bootLog cfg.device bootId sensorId (shownEvents events))).length) :
    let held := lastRecords cfg.device.capacity.size (bootLog cfg.device bootId sensorId (shownEvents events))
    let answered := answerDispatch cfg.maxPacketSize device session (chunkOpcode compact).value platform
      (chunkRequest (.ofNat sensorId.number) held[place].sequence requested)
    answered.status = .success ∧ ∃ length : Nat, 0 < length ∧ length ≤ requested.toNat ∧
      Client.Protocol.decodeHistoryChunk ⟨cfg.auth.protocolVersion,chunkOpcode compact,requestId,.success,answered.payload⟩ =
        .ok (chunkValue (.ofNat sensorId.number) held[place].sequence ((held.drop place).take length)) := by
  intro held answered
  have positive := chunkLimit_positive values compact some
  have known := sensorId_known sensorId
  have numbered : Numbered device.thermometer := reached ▸ run_numbered cfg.device bootId events
  have copied := copyHistory_place_known cfg.device bootId events sensorId inside positive
  rw [← reached] at copied
  have few := (copyHistory_length copied).1.trans (chunkLimit_requested cfg cfg.maxPacketSize compact requested)
  have byte := requested.toNat_lt
  have answers : answered = ⟨.success,chunkBytes compact (.ofNat sensorId.number) held[place].sequence
      ((held.drop place).take (chunkLimit cfg cfg.maxPacketSize compact requested)),session,device⟩ := by
    simp only [answered,answerDispatch_chunk authenticated,answerGetHistoryChunk_request,answerChunk]
    rw [if_neg known,if_neg some,if_neg positive,copied]
  rw [answers]
  refine ⟨rfl,_,Nat.pos_of_ne_zero positive,chunkLimit_requested _ _ _ _,?_⟩
  exact decodeHistoryChunk_bytes compact cfg.auth.protocolVersion requestId .success known _ (Nat.lt_of_le_of_lt few byte)
    fun i reach => copyHistory_numbered numbered copied reach

theorem roomy_count (script : Nat → Encounter) (values : SharedValues cfg) (byte : cfg.maxCompactHistoryRecords ≤ 255) (roomy : Roomy mtuSize)
    (client : ThermometerClient (DeviceSession cfg)) {count : Int} (positive : 1 ≤ count) :
    1 ≤ requestedCount cfg script mtuSize client count ∧ requestedCount cfg script mtuSize client count ≤ count ∧
      requestedCount cfg script mtuSize client count ≤ 255 := by
  have single := maximumRecords_byte values byte client.nextRequestId.compact
  have bounds : 1 ≤ client.nextRequestId.recordsPerChunk (clientConfig cfg) (deviceTransport cfg script mtuSize) ∧
      client.nextRequestId.recordsPerChunk (clientConfig cfg) (deviceTransport cfg script mtuSize) ≤
        maximumRecords (clientConfig cfg) client.nextRequestId.compact ∧ _ :=
    recordsPerChunk_bounds values client.nextRequestId roomy
  unfold requestedCount
  omega

theorem chunkRound_prompt (values : SharedValues cfg) (calm : ∀ n, Calm (script n).events)
    (byte : cfg.maxCompactHistoryRecords ≤ 255) (roomy : Roomy mtuSize) (reliable : Reliable script)
    (client : ThermometerClient (DeviceSession cfg))
    (reached : client.connection.thermometer = run (start cfg.device bootId) now) (opened : Open client.connection)
    (sensorId : SensorId) {place : Nat} {count : Int} (positive : 1 ≤ count)
    (frozen : lastAsked [] now none = some asked)
    (inside : place < (lastRecords cfg.device.capacity.size (bootLog cfg.device bootId sensorId asked)).length) :
    let held := lastRecords cfg.device.capacity.size (bootLog cfg.device bootId sensorId asked)
    ∃ (length : Nat) (response : Response), 0 < length ∧ (length : Int) ≤ count ∧
      (client.chunkRound (clientConfig cfg) (deviceTransport cfg script mtuSize) sensorId.number
        held[place].sequence.toNat count client.compact).1 = .ok response ∧
      Client.Protocol.decodeHistoryChunk response =
        .ok (chunkValue (.ofNat sensorId.number) held[place].sequence ((held.drop place).take length)) := by
  intro held
  obtain ⟨least,most,single⟩ := roomy_count script values byte roomy client positive
  have building : ∃ packet, buildHistoryChunkRequest (clientConfig cfg) (client.requestId + 1).toNat sensorId.number
      held[place].sequence.toNat (requestedCount cfg script mtuSize client count) client.compact = .ok packet ∧ _ :=
    build_fits values byte client.nextRequestId roomy (client.requestId + 1) sensorId held[place].sequence positive
  obtain ⟨packet,built,_⟩ := building
  have sent := chunkRound_sent client sensorId.number held[place].sequence.toNat count client.compact built
  rw [sent]
  generalize requestedCount cfg script mtuSize client count = requested at *
  have asks : (UInt8.ofNat requested.toNat).toNat = requested.toNat := by
    rw [UInt8.toNat_ofNat',Nat.mod_eq_of_lt (by omega)]
  have some : UInt8.ofNat requested.toNat ≠ 0 := by
    intro zero
    rw [zero] at asks
    have nothing : (0 : UInt8).toNat = 0 := rfl
    omega
  have shown : shownEvents (now ++ (script client.connection.exchanges).events) = asked := by
    unfold shownEvents
    rw [lastAsked_append,frozen,lastAsked_calm _ _ _ (calm _)]
    rfl
  have there : (client.connection.pass (script client.connection.exchanges).events).server.device.thermometer =
      run (start cfg.device bootId) (now ++ (script client.connection.exchanges).events) := by
    rw [run_append,← reached]
    rfl
  obtain ⟨begins,proves,_⟩ := chunkOpcode_plain client.compact
  obtain ⟨parsed_,_,_⟩ := exchange_open values begins proves (client.requestId + 1)
    (chunkRequest (.ofNat sensorId.number) held[place].sequence (.ofNat requested.toNat)) (small_fits values (by simp [chunkRequest]))
    (by simp [chunkRequest]) client.connection opened (reliable _)
  subst shown
  obtain ⟨success,length,more,few,decoded⟩ := answered_chunk values there opened.authenticated
    (script client.connection.exchanges).platform client.compact (client.requestId + 1) sensorId some inside
  rw [success,accept,if_pos rfl] at parsed_
  refine ⟨length,_,more,by omega,?_,decoded⟩
  simpa only [sentRound,Int.toNat_natCast,UInt32.ofNat_toNat] using parsed_

theorem getHistoryChunk_prompt (values : SharedValues cfg) (calm : ∀ n, Calm (script n).events)
    (byte : cfg.maxCompactHistoryRecords ≤ 255) (roomy : Roomy mtuSize) (reliable : Reliable script)
    (client : ThermometerClient (DeviceSession cfg))
    (reached : client.connection.thermometer = run (start cfg.device bootId) now) (opened : Open client.connection)
    (sensorId : SensorId) {place : Nat} {count : Int} (positive : 1 ≤ count)
    (frozen : lastAsked [] now none = some asked)
    (inside : place < (lastRecords cfg.device.capacity.size (bootLog cfg.device bootId sensorId asked)).length) :
    let held := lastRecords cfg.device.capacity.size (bootLog cfg.device bootId sensorId asked)
    ∃ length : Nat, 0 < length ∧ (length : Int) ≤ count ∧
      (client.getHistoryChunk (clientConfig cfg) (deviceTransport cfg script mtuSize) sensorId.number
        held[place].sequence.toNat count).1 =
          .ok (chunkValue (.ofNat sensorId.number) held[place].sequence ((held.drop place).take length)) := by
  intro held
  obtain ⟨length,response,more,few,answered,decoded⟩ := chunkRound_prompt values calm byte roomy reliable client reached
    opened sensorId positive frozen inside
  refine ⟨length,more,few,?_⟩
  have read : ∀ {compact : Bool} {round : Except Client.Failure Response × ThermometerClient (DeviceSession cfg)},
      round.1 = .ok response → (ThermometerClient.chunkRead compact round).1 =
        .ok (chunkValue (.ofNat sensorId.number) held[place].sequence ((held.drop place).take length)) := by
    rintro compact ⟨outcome,later⟩ told
    simp only at told
    subst told
    exact decoded
  cases form : client.compact with
  | false =>
    rw [form] at answered
    rw [ThermometerClient.getHistoryChunk_full form]
    exact read answered
  | true =>
    rw [form] at answered
    rw [ThermometerClient.getHistoryChunk_compact form]
    · exact read answered
    · intro message refused
      rw [answered] at refused
      cases refused

theorem pass_reached (reached : client.connection.thermometer = run (start cfg.device bootId) now) (events : List Event) :
    (client.connection.pass events).server.device.thermometer.bootId = bootId := by
  have there : (client.connection.pass events).server.device.thermometer = run (start cfg.device bootId) (now ++ events) := by
    rw [run_append,← reached]
    rfl
  rw [there]
  exact run_bootId _ _

theorem getHistoryMeta_prompt (values : SharedValues cfg) (reliable : Reliable script)
    (room : headerSize + historyMetaResponseSize ≤ cfg.maxPacketSize) (mtuSize : Nat)
    (client : ThermometerClient (DeviceSession cfg))
    (reached : client.connection.thermometer = run (start cfg.device bootId) now) (opened : Open client.connection) :
    ∃ answer, (client.getHistoryMeta (clientConfig cfg) (deviceTransport cfg script mtuSize)).1 = .ok answer ∧
      answer.bootId = bootId := by
  have exchanged : parsed cfg .getHistoryMeta (client.requestId + 1) _ = accept _ _ _ _ _ ∧ _ :=
    exchange_open values (by decide) (by decide) (client.requestId + 1) [] (small_fits values (by simp)) (by simp)
      client.connection opened (reliable _)
  have success : (answerDispatch cfg.maxPacketSize (client.connection.pass (script client.connection.exchanges).events).server.device
      client.connection.server.session (Opcode.value .getHistoryMeta) (script client.connection.exchanges).platform []).status =
        .success := by
    simp [answerDispatch,answerAuthenticated,answerGetHistoryMeta,opened.authenticated,Nat.not_lt.mpr room]
  obtain ⟨_,decoded⟩ := answered_meta (script client.connection.exchanges).platform (client.requestId + 1) success
  rw [getHistoryMeta_exchange]
  dsimp only
  rw [exchanged.1,success,accept,if_pos rfl]
  exact ⟨_,decoded,pass_reached reached _⟩

theorem answerDispatch_current {device : Device cfg} {session : ProtocolSession} {platform : Platform}
    (authenticated : session.authentication.authenticated = true)
    (room : headerSize + currentResponseSize ≤ cfg.maxPacketSize) :
    answerDispatch cfg.maxPacketSize device session (Opcode.value .getCurrent) platform [] =
      ⟨.success,currentBytes (currentSnapshot device.thermometer),session,device⟩ := by
  simp [answerDispatch,answerAuthenticated,authenticated,answerGetCurrent,Nat.not_lt.mpr room]

theorem getCurrent_prompt (values : SharedValues cfg) (reliable : Reliable script)
    (room : headerSize + currentResponseSize ≤ cfg.maxPacketSize) (mtuSize : Nat)
    (client : ThermometerClient (DeviceSession cfg))
    (reached : client.connection.thermometer = run (start cfg.device bootId) now) (opened : Open client.connection) :
    ∃ answer, (client.getCurrent (clientConfig cfg) (deviceTransport cfg script mtuSize)).1 = .ok answer ∧
      answer.bootId = bootId := by
  have exchanged : parsed cfg .getCurrent (client.requestId + 1) _ = accept _ _ _ _ _ ∧ _ :=
    exchange_open values (by decide) (by decide) (client.requestId + 1) [] (small_fits values (by simp)) (by simp)
      client.connection opened (reliable _)
  unfold ThermometerClient.getCurrent
  rw [request_exchange client (by simp)]
  dsimp only
  rw [exchanged.1,answerDispatch_current opened.authenticated room,accept,if_pos rfl]
  exact ⟨_,decodeCurrent_bytes _ _ _ _,pass_reached reached _⟩

structure Spacious (cfg : FirmwareConfig) (mtuSize : Nat) : Prop where
  byte : cfg.maxCompactHistoryRecords ≤ 255
  link : Roomy mtuSize
  historyMeta : headerSize + historyMetaResponseSize ≤ cfg.maxPacketSize
  current : headerSize + currentResponseSize ≤ cfg.maxPacketSize

theorem submitted_prompt {α : Type} (values : SharedValues cfg) (calm : ∀ n, Calm (script n).events)
    (reliable : Reliable script) (mtuSize : Nat) {service : Service ρ}
    (willing : ∀ rest, ∃ others, (service.submit rest).1 = .ok others)
    (action : ThermometerClient (DeviceSession cfg) → Except Client.Failure α × ThermometerClient (DeviceSession cfg))
    {s : ThermometerClient (DeviceSession cfg) × ρ} {asked : Option (List Event)}
    (here : (deviceRecorder cfg bootId (Reliable script) ρ).At s now asked) :
    ∃ client later, (submitted cfg (deviceTransport cfg script mtuSize) service action s).1 = (action client).1 ∧
      client.connection.thermometer = run (start cfg.device bootId) later ∧ lastAsked [] later none = asked ∧
      Open client.connection := by
  obtain ⟨others,told⟩ := willing s.2
  obtain ⟨reached,frozen,opened⟩ := here
  have before := others_move values calm mtuSize others s.1
  obtain ⟨events,quiet,there⟩ := before.reached reached
  refine ⟨_,now ++ events,?_,there,?_,before.2 reliable (opened reliable)⟩
  · unfold submitted
    cases answered : service.submit s.2 with
    | mk outcome rest =>
      rw [answered] at told
      dsimp only at told
      subst told
      rfl
  · rw [lastAsked_append,frozen]
    exact lastAsked_calm _ _ _ quiet

theorem device_prompt (values : SharedValues cfg) (calm : ∀ n, Calm (script n).events) (reliable : Reliable script)
    (spacious : Spacious cfg mtuSize) (service : Service ρ) {deadline : Rat} (prompt : service.Prompt deadline)
    (bootId : UInt32) :
    (deviceRecorder cfg bootId (Reliable script) ρ).Prompt
      (surroundings cfg (deviceTransport cfg script mtuSize) service) bootId deadline where
  clock s := prompt.clock s.2
  sleep s := prompt.sleep s.2
  publishCurrent anchor observed limit s := prompt.publishCurrent anchor observed limit s.2
  recordsPerChunk s := ⟨_,rfl,Int.le_max_left _ _⟩
  getHistoryMeta := by
    intro limit s now asked here
    obtain ⟨client,later,same,reached,_,opened⟩ := submitted_prompt values calm reliable mtuSize prompt.submit
      (fun client => client.getHistoryMeta (clientConfig cfg) (deviceTransport cfg script mtuSize)) here
    obtain ⟨answer,answered,boot⟩ := getHistoryMeta_prompt values reliable spacious.historyMeta mtuSize client reached opened
    exact ⟨answer,same.trans answered,boot⟩
  getCurrent := by
    intro limit s now asked here
    obtain ⟨client,later,same,reached,_,opened⟩ := submitted_prompt values calm reliable mtuSize prompt.submit
      (fun client =>
        let (result,client) := client.getCurrent (clientConfig cfg) (deviceTransport cfg script mtuSize)
        (result.map anchorOf,client)) here
    obtain ⟨answer,answered,boot⟩ := getCurrent_prompt values reliable spacious.current mtuSize client reached opened
    refine ⟨anchorOf answer,same.trans ?_,boot⟩
    dsimp only
    rw [answered]
    rfl
  getHistoryChunk := by
    intro s now asked here sensorId place inside count limit positive
    have place_ : place < (lastRecords cfg.device.capacity.size (bootLog cfg.device bootId sensorId asked)).length := by
      simpa only [deviceRecorder,List.length_map] using inside
    have start : ((deviceRecorder cfg bootId (Reliable script) ρ).held asked sensorId)[place].sequence =
        (lastRecords cfg.device.capacity.size (bootLog cfg.device bootId sensorId asked))[place].sequence := by
      simp only [deviceRecorder,List.getElem_map]
      rfl
    obtain ⟨client,later,same,reached,frozen,opened⟩ := submitted_prompt values calm reliable mtuSize prompt.submit
      (fun client => client.getHistoryChunk (clientConfig cfg) (deviceTransport cfg script mtuSize) sensorId.number
        ((deviceRecorder cfg bootId (Reliable script) ρ).held asked sensorId)[place].sequence.toNat count) here
    obtain ⟨length,more,few,answered⟩ := getHistoryChunk_prompt values calm spacious.byte spacious.link reliable client reached
      opened sensorId positive frozen place_
    refine ⟨length,more,few,same.trans ?_⟩
    rw [start,answered]
    simp only [chunkValue,sensorId_byte sensorId,deviceRecorder,List.map_take,List.map_drop]

-- Nobody hinders the transfer: then it returns, with all that the device held at its metadata
-- request, whatever is sampled and requested meanwhile.
theorem transfer_complete (values : SharedValues cfg) (calm : ∀ n, Calm (script n).events) (reliable : Reliable script)
    (spacious : Spacious cfg mtuSize) (service : Service ρ) (bootId : UInt32) (before : List Event)
    (client : ThermometerClient (DeviceSession cfg)) (rest : ρ)
    (reached : client.connection.thermometer = run (start cfg.device bootId) before) (opened : Open client.connection)
    (prompt : service.Prompt ((service.monotonic rest).1 + service.settings.historySyncBudgetSeconds -
      min 1 (service.settings.historySyncBudgetSeconds / 10))) (operation : Client.SyncOperation) :
    ∃ result last asked ended, Client.synchronize (surroundings cfg (deviceTransport cfg script mtuSize) service) operation
        (client,rest) = (.ok result,last) ∧ before <+: asked ∧ asked ++ [.getHistoryMeta] <+: ended ∧
      last.1.connection.thermometer = run (start cfg.device bootId) ended ∧ result.retrieval.history.complete = true ∧
      ∀ sensorId, result.retrieval.history.values sensorId =
        (lastRecords cfg.device.capacity.size (bootLog cfg.device bootId sensorId asked)).map recordValue := by
  have serves : (deviceRecorder cfg bootId (Reliable script) ρ).Serves
      (surroundings cfg (deviceTransport cfg script mtuSize) service) := device_serves values calm id mtuSize service
  have here : (deviceRecorder cfg bootId (Reliable script) ρ).At (client,rest) before (lastAsked [] before none) :=
    ⟨reached,rfl,fun _ => opened⟩
  obtain ⟨result,last,synchronized,complete⟩ := Recorder.synchronize_prompt serves here
    (device_prompt values calm reliable spacious service prompt bootId) operation
  obtain ⟨asked,ended,first,requested,⟨_,there,_⟩,_,_,all⟩ := Recorder.synchronize_source serves here synchronized
  exact ⟨result,last,asked,ended,synchronized,first,requested_earlier requested,there,complete,all complete⟩

-- A device that has run for four samples, one reading of which is below zero; it goes on
-- with each exchange, and a display is switched in between.
def tickingScript (n : Nat) : Encounter := ⟨[.tick,.reading 1 ⟨true,2150⟩,.toggleDisplay 1],⟨n,.replicate 16 0⟩,.answered⟩

def tickingEvents : List Event := frost ++ [.tick,.tick]

def tickingClient : ThermometerClient (DeviceSession frostConfig) where
  passkey := none
  requestId := 65535
  compactHistorySupported := none
  connection := ⟨{ serverStart frostConfig 7 (.replicate 6 1) with
    session := openSession, device := ⟨run (start _ 7) tickingEvents,.cleared⟩, linked := true },true,0⟩

def tickingService : Service Nat where
  settings := ⟨30,1,1000⟩
  monotonic rest := (0,rest + 1)
  utcNow rest := (1000,rest)
  sleep rest := (.ok (),rest)
  currentAnchor _ := (none,none)
  publishCurrent _ _ _ rest := (.ok (),rest)
  submit rest := (.ok [.display 1 (rest % 2 = 0),.current],rest)

theorem tickingScript_calm (n : Nat) : Calm (tickingScript n).events := by simp [Calm,tickingScript]

theorem tickingService_prompt : tickingService.Prompt ((tickingService.monotonic 0).1 +
    tickingService.settings.historySyncBudgetSeconds - min 1 (tickingService.settings.historySyncBudgetSeconds / 10)) where
  clock _ := by
    have soon : (0 : Rat) < 0 + 30 - min 1 (30 / 10) := by decide +kernel
    exact soon
  sleep _ := rfl
  publishCurrent _ _ _ _ := rfl
  submit _ := ⟨_,rfl⟩

theorem tickingClient_spacious : Spacious frostConfig 23 := ⟨by decide,Nat.le_refl 22,by decide,by decide⟩

theorem transfer_complete_ticking :
    ∃ result last asked ended, Client.synchronize (surroundings frostConfig (deviceTransport frostConfig tickingScript 23)
        tickingService) ⟨0,0⟩ (tickingClient,0) = (.ok result,last) ∧ tickingEvents <+: asked ∧
      asked ++ [.getHistoryMeta] <+: ended ∧ last.1.connection.thermometer = run (start frostConfig.device 7) ended ∧
      result.retrieval.history.complete = true ∧ ∀ sensorId, result.retrieval.history.values sensorId =
        (lastRecords frostConfig.device.capacity.size (bootLog frostConfig.device 7 sensorId asked)).map recordValue :=
  transfer_complete (shippedConfig_values [] fun _ _ => none) tickingScript_calm (fun _ => rfl) tickingClient_spacious
    tickingService 7 tickingEvents tickingClient 0 rfl ⟨rfl,rfl,rfl⟩ tickingService_prompt ⟨0,0⟩

end Thermometer.Link
