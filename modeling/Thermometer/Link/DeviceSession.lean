import Thermometer.Link.ChunkSize
import Thermometer.Firmware.SampleLog

-- The client's connection to the firmware while the device goes on sampling. An exchange
-- may be answered, fail at the write or at the read, or be given up half way.
namespace Thermometer.Link
open Memory Wire Struct Firmware
open Client.Protocol (ThermometerClient Transport Response)

inductive Fate where
  | answered
  | unwritten (description : String)
  | unread (description : String)
  | abandoned (delivered : Bool) (failure : Client.Failure)

-- What an exchange meets: what has happened to the thermometer before it, the time and the
-- random bytes that the firmware finds, and how it ends.
structure Encounter where
  events : List Event
  platform : Platform
  fate : Fate

structure DeviceSession (cfg : FirmwareConfig) where
  server : Server cfg
  connected : Bool
  exchanges : Nat

variable {cfg : FirmwareConfig}

namespace DeviceSession

def thermometer (s : DeviceSession cfg) : State cfg.device := s.server.device.thermometer

-- The client has released the connection, and the firmware notices.
def close (s : DeviceSession cfg) : DeviceSession cfg :=
  { s with server := handleDisconnect s.server, connected := false }

def pass (s : DeviceSession cfg) (events : List Event) : DeviceSession cfg :=
  let device := { s.server.device with thermometer := run s.server.device.thermometer events }
  { s with server := { s.server with device := device }, exchanges := s.exchanges + 1 }

def deliver (s : DeviceSession cfg) (request : List UInt8) (platform : Platform) : Bool × DeviceSession cfg :=
  match writeRequest s.server request platform true none with
  | some (result,server) => (result = .success,{ s with server := server })
  | none => (false,s)

-- The read behind it. The firmware ends the link after a wrong proof.
def receive (s : DeviceSession cfg) : Except Client.Failure (List UInt8) × DeviceSession cfg :=
  match readResponse s.server true with
  | (some raw,terminate,server) =>
    let s := { s with server := server }
    (.ok raw,if terminate then s.close else s)
  | (none,_,server) => (.error (.other "GATT response read failed"),{ s with server := server })

-- `_exchange_packet` up to the parsing. A failure releases the connection, a cancellation
-- does not.
def exchange (script : Nat → Encounter) (request : List UInt8) (s : DeviceSession cfg) :
    Except Client.Failure (List UInt8) × DeviceSession cfg :=
  if !s.connected then (.error (.other "GATT request requires an established connection"),s)
  else
    let encounter := script s.exchanges
    let s := s.pass encounter.events
    match encounter.fate with
    | .unwritten description => (.error (.other s!"GATT request write failed: {description}"),s.close)
    | .unread description =>
      (.error (.other s!"GATT response read failed: {description}"),(s.deliver request encounter.platform).2.close)
    | .abandoned delivered failure =>
      (.error failure,if delivered then (s.deliver request encounter.platform).2 else s)
    | .answered =>
      match s.deliver request encounter.platform with
      | (true,s) => s.receive
      | (false,s) => (.error (.other "GATT request write failed"),s.close)

end DeviceSession

def deviceTransport (cfg : FirmwareConfig) (script : Nat → Encounter) (mtuSize : Nat) : Transport (DeviceSession cfg) where
  exchange := DeviceSession.exchange script
  mtuSize _ := mtuSize

def Calm (events : List Event) : Prop := Event.getHistoryMeta ∉ events

def Affects (name : Opcode) (device : Device cfg) (session : ProtocolSession) (answered : Answer cfg) : Prop :=
  answered.session.authentication = session.authentication ∧
    ∃ events, (name ≠ .getHistoryMeta → Calm events) ∧ answered.device.thermometer = run device.thermometer events

variable {capacity : Nat} {device : Device cfg} {session : ProtocolSession} {platform : Platform} {name : Opcode}

theorem Affects.still {answered : Answer cfg} (kept : answered.session.authentication = session.authentication)
    (same : answered.device = device) : Affects name device session answered := by
  refine ⟨kept,[],fun _ => List.not_mem_nil,?_⟩
  rw [same]
  rfl

theorem answerSetDisplay_affects (payload : List UInt8) :
    Affects .setDisplay device session (answerSetDisplay capacity device session payload) := by
  unfold answerSetDisplay
  split
  · rename_i sensorId enabled
    split
    · exact .still rfl rfl
    · split
      · exact .still rfl rfl
      · split
        · exact .still rfl rfl
        · exact ⟨rfl,[.setDisplay sensorId (enabled ≠ 0)],fun _ => by simp [Calm],rfl⟩
  · exact .still rfl rfl

theorem answerAuthenticated_affects (name : Opcode) (payload : List UInt8) :
    Affects name device session (answerAuthenticated capacity device session name.value payload) := by
  unfold answerAuthenticated
  rw [opcode_ofByte]
  cases name with
  | getCurrent =>
    dsimp only
    split
    · exact .still rfl rfl
    · unfold answerGetCurrent
      split <;> exact .still rfl rfl
  | setDisplay => exact answerSetDisplay_affects payload
  | getHistoryMeta =>
    dsimp only
    split
    · exact .still rfl rfl
    · unfold answerGetHistoryMeta
      split
      · exact .still rfl rfl
      · exact ⟨rfl,[.getHistoryMeta],fun other => absurd rfl other,rfl⟩
  | getHistoryChunk =>
    have unchanged : (answerGetHistoryChunk capacity device session payload false).device = device ∧
        (answerGetHistoryChunk capacity device session payload false).session = session :=
      answerGetHistoryChunk_unchanged payload false
    exact .still (congrArg _ unchanged.2) unchanged.1
  | getHistoryChunkCompact =>
    have unchanged : (answerGetHistoryChunk capacity device session payload true).device = device ∧
        (answerGetHistoryChunk capacity device session payload true).session = session :=
      answerGetHistoryChunk_unchanged payload true
    exact .still (congrArg _ unchanged.2) unchanged.1
  | resetBond =>
    dsimp only
    split
    · exact .still rfl rfl
    · exact .still rfl rfl
  | authBegin => exact .still rfl rfl
  | authProve => exact .still rfl rfl

theorem answerDispatch_affects (begins : name ≠ .authBegin) (proves : name ≠ .authProve) (payload : List UInt8) :
    Affects name device session (answerDispatch capacity device session name.value platform payload) := by
  unfold answerDispatch
  rw [opcode_ofByte]
  cases name with
  | authBegin => exact absurd rfl begins
  | authProve => exact absurd rfl proves
  | _ =>
    dsimp only
    split
    · exact answerAuthenticated_affects _ payload
    · exact .still rfl rfl

variable {s : DeviceSession cfg} {script : Nat → Encounter} {payload : List UInt8} {requestId : UInt16}

inductive Exchanged (s : DeviceSession cfg) (name : Opcode) (requestId : UInt16) (payload : List UInt8) :
    Except Client.Failure Response → DeviceSession cfg → Prop where
  | lost (failure : Client.Failure) (events : List Event) (later : DeviceSession cfg) :
      (name ≠ .getHistoryMeta → Calm events) → later.thermometer = run s.thermometer events →
      Exchanged s name requestId payload (.error failure) later
  | served (events : List Event) (platform : Platform) (later : DeviceSession cfg) : Calm events →
      later.server.device = (answerDispatch cfg.maxPacketSize (s.pass events).server.device s.server.session name.value
        platform payload).device →
      Exchanged s name requestId payload
        (accept cfg.auth.protocolVersion name requestId
          (answerDispatch cfg.maxPacketSize (s.pass events).server.device s.server.session name.value platform payload).status
          (answerDispatch cfg.maxPacketSize (s.pass events).server.device s.server.session name.value platform payload).payload)
        later

theorem Exchanged.ok {later : DeviceSession cfg} {response : Response}
    (exchanged : Exchanged s name requestId payload (.ok response) later) :
    ∃ events platform, Calm events ∧
      let answered := answerDispatch cfg.maxPacketSize (s.pass events).server.device s.server.session name.value platform payload
      later.server.device = answered.device ∧ answered.status = .success ∧
        response = ⟨cfg.auth.protocolVersion,name,requestId,.success,answered.payload⟩ := by
  generalize told : Except.ok response = result at exchanged
  cases exchanged with
  | lost failure events later calm ran => cases told
  | served events platform later calm changed =>
    unfold accept at told
    split at told
    · rename_i success
      cases told
      exact ⟨events,platform,calm,changed,success,rfl⟩
    · cases told

theorem deliver_fitting (values : SharedValues cfg) (s : DeviceSession cfg) (name : Opcode) (requestId : UInt16)
    (payload : List UInt8) (platform : Platform) (fits : headerSize + payload.length ≤ cfg.maxPacketSize)
    (short : payload.length < 65536) :
    let answered := answerDispatch cfg.maxPacketSize s.server.device s.server.session name.value platform payload
    ∃ server, s.deliver (requestPacket cfg.auth.protocolVersion name.value requestId payload) platform =
        (true,{ s with server := server }) ∧ server.device = answered.device ∧
      server.session.authentication = answered.session.authentication ∧
      Client.Protocol.parseResponse (clientConfig cfg) (server.response.toList.take server.responseLength) (some name)
        (some requestId) false = accept cfg.auth.protocolVersion name requestId answered.status answered.payload := by
  intro answered
  let request := requestPacket cfg.auth.protocolVersion name.value requestId payload
  have inside : ¬ (request.length < headerSize ∨ cfg.maxPacketSize < request.length) := by
    simp only [request,requestPacket_length]
    omega
  obtain ⟨outcome,processed,session,changed,stated,parsed⟩ := request_accepted values (maxPacketSize_header cfg)
    s.server.device s.server.session s.server.response platform (requestPacket_echo : echo request = (name.value,requestId))
  rw [show answer cfg.maxPacketSize s.server.device s.server.session platform request = answered from
    answer_requestPacket short s.server.device s.server.session platform] at session changed stated parsed
  have answers : 0 < outcome.reply.length := by
    by_contra none
    simp [Nat.eq_zero_of_not_pos none] at stated
  have served : processRequest cfg s.server.device s.server.session s.server.response platform request = some outcome :=
    processed
  have wrote : writeRequest s.server request platform true none =
      some (.success,scheduleBondReset (s.server.withOutcome outcome) outcome.session.bondResetRequested none) := by
    rw [writeRequest,if_neg inside,if_neg (by simp),served]
    simp [answers]
  have unscheduled : scheduleBondReset (s.server.withOutcome outcome) outcome.session.bondResetRequested none =
      s.server.withOutcome outcome := by
    cases outcome.session.bondResetRequested <;> rfl
  rw [unscheduled] at wrote
  refine ⟨s.server.withOutcome outcome,?_,changed,congrArg (·.authentication) session,parsed⟩
  unfold DeviceSession.deliver
  rw [show writeRequest s.server (requestPacket cfg.auth.protocolVersion name.value requestId payload) platform true none =
    some (.success,s.server.withOutcome outcome) from wrote]
  rfl

theorem deliver_long (s : DeviceSession cfg) (name : Opcode) (requestId : UInt16) (payload : List UInt8)
    (platform : Platform) (long : cfg.maxPacketSize < headerSize + payload.length) :
    s.deliver (requestPacket cfg.auth.protocolVersion name.value requestId payload) platform = (false,s) := by
  have outside : (requestPacket cfg.auth.protocolVersion name.value requestId payload).length < headerSize ∨
      cfg.maxPacketSize < (requestPacket cfg.auth.protocolVersion name.value requestId payload).length := by
    rw [requestPacket_length]
    omega
  unfold DeviceSession.deliver writeRequest
  rw [if_pos outside]
  rfl

theorem handleDisconnect_device (server : Server cfg) : (handleDisconnect server).device = server.device := by
  unfold handleDisconnect
  dsimp only
  split <;> rfl

theorem receive_ready (s : DeviceSession cfg) :
    ∃ later, s.receive = (.ok (s.server.response.toList.take s.server.responseLength),later) ∧
      later.server.device = s.server.device ∧
      (s.server.session.authentication.disconnectRequested = false →
        later.connected = s.connected ∧ later.server.session.authentication = s.server.session.authentication) := by
  unfold DeviceSession.receive readResponse takeDisconnect
  cases requested : s.server.session.authentication.disconnectRequested with
  | false =>
    refine ⟨_,rfl,rfl,fun _ => ⟨rfl,?_⟩⟩
    show { s.server.session.authentication with disconnectRequested := false } = _
    rw [← requested]
  | true =>
    exact ⟨_,rfl,handleDisconnect_device _,fun impossible => by cases impossible⟩

theorem close_thermometer (s : DeviceSession cfg) : s.close.thermometer = s.thermometer :=
  congrArg Device.thermometer (handleDisconnect_device s.server)

theorem deliver_events (values : SharedValues cfg) (s : DeviceSession cfg) (begins : name ≠ .authBegin)
    (proves : name ≠ .authProve) (requestId : UInt16) (payload : List UInt8) (platform : Platform)
    (short : payload.length < 65536) :
    ∃ events, (name ≠ .getHistoryMeta → Calm events) ∧
      (s.deliver (requestPacket cfg.auth.protocolVersion name.value requestId payload) platform).2.thermometer =
        run s.thermometer events := by
  rcases Nat.lt_or_ge cfg.maxPacketSize (headerSize + payload.length) with long | fits
  · rw [deliver_long s name requestId payload platform long]
    exact ⟨[],fun _ => List.not_mem_nil,rfl⟩
  · obtain ⟨server,delivered,changed,_⟩ := deliver_fitting values s name requestId payload platform fits short
    have affected : Affects name s.server.device s.server.session (answerDispatch cfg.maxPacketSize s.server.device
        s.server.session name.value platform payload) := answerDispatch_affects begins proves payload
    obtain ⟨_,events,calm,ran⟩ := affected
    rw [delivered]
    exact ⟨events,calm,(congrArg Device.thermometer changed).trans ran⟩

theorem calm_append {before after : List Event} (first : Calm before) (second : Calm after) : Calm (before ++ after) := by
  intro member
  rcases List.mem_append.mp member with early | late
  · exact first early
  · exact second late

def parsed (cfg : FirmwareConfig) (name : Opcode) (requestId : UInt16) (raw : Except Client.Failure (List UInt8)) :
    Except Client.Failure Response :=
  raw.bind fun raw => Client.Protocol.parseResponse (clientConfig cfg) raw (some name) (some requestId) false

theorem exchange_ends (values : SharedValues cfg) (calm : ∀ n, Calm (script n).events) (begins : name ≠ .authBegin)
    (proves : name ≠ .authProve) (requestId : UInt16) (payload : List UInt8) (short : payload.length < 65536)
    (s : DeviceSession cfg) :
    let request := requestPacket cfg.auth.protocolVersion name.value requestId payload
    Exchanged s name requestId payload (parsed cfg name requestId (s.exchange script request).1)
      (s.exchange script request).2 := by
  intro request
  let encounter := script s.exchanges
  let before := s.pass encounter.events
  have passed := calm s.exchanges
  obtain ⟨events,own,ran⟩ := deliver_events values before begins proves requestId payload encounter.platform short
  have together : ∀ {later : DeviceSession cfg}, later.thermometer = run before.thermometer events →
      (name ≠ .getHistoryMeta → Calm (encounter.events ++ events)) ∧
        later.thermometer = run s.thermometer (encounter.events ++ events) := by
    intro later same
    refine ⟨fun other => calm_append passed (own other),?_⟩
    rw [same,run_append]
    rfl
  unfold DeviceSession.exchange
  cases connected : s.connected with
  | false => exact .lost _ [] _ (fun _ => List.not_mem_nil) rfl
  | true =>
    dsimp only [Bool.not_true,Bool.false_eq_true]
    rw [if_neg (by simp)]
    cases fate : (script s.exchanges).fate with
    | unwritten description =>
      exact .lost _ encounter.events _ (fun _ => passed) (close_thermometer before)
    | unread description =>
      have all := together ((close_thermometer _).trans ran)
      exact .lost _ (encounter.events ++ events) _ all.1 all.2
    | abandoned delivered failure =>
      cases delivered with
      | false => exact .lost _ encounter.events _ (fun _ => passed) rfl
      | true =>
        have all := together ran
        exact .lost _ (encounter.events ++ events) _ all.1 all.2
    | answered =>
      rcases Nat.lt_or_ge cfg.maxPacketSize (headerSize + payload.length) with long | fits
      · simp only [request,deliver_long _ name requestId payload _ long]
        exact .lost _ encounter.events _ (fun _ => passed) (close_thermometer before)
      · obtain ⟨server,delivered,changed,_,accepted⟩ := deliver_fitting values before name requestId payload
          encounter.platform fits short
        obtain ⟨later,received,kept,_⟩ := receive_ready { before with server := server }
        simp only [request,before,encounter] at delivered received ⊢
        rw [delivered]
        dsimp only
        rw [received]
        simp only [parsed,Except.bind]
        rw [accepted]
        exact .served encounter.events encounter.platform later passed (kept.trans changed)

structure Open (s : DeviceSession cfg) : Prop where
  connected : s.connected = true
  authenticated : s.server.session.authentication.authenticated = true
  lasting : s.server.session.authentication.disconnectRequested = false

theorem exchange_open (values : SharedValues cfg) (begins : name ≠ .authBegin) (proves : name ≠ .authProve)
    (requestId : UInt16) (payload : List UInt8) (fits : headerSize + payload.length ≤ cfg.maxPacketSize)
    (short : payload.length < 65536) (s : DeviceSession cfg) (opened : Open s)
    (fate : (script s.exchanges).fate = .answered) :
    let encounter := script s.exchanges
    let answered := answerDispatch cfg.maxPacketSize (s.pass encounter.events).server.device s.server.session name.value
      encounter.platform payload
    let exchanged := s.exchange script (requestPacket cfg.auth.protocolVersion name.value requestId payload)
    parsed cfg name requestId exchanged.1 = accept cfg.auth.protocolVersion name requestId answered.status answered.payload ∧
      exchanged.2.server.device = answered.device ∧ Open exchanged.2 := by
  intro encounter answered
  let before := s.pass encounter.events
  obtain ⟨server,delivered,changed,authentication,accepted⟩ := deliver_fitting values before name requestId payload
    encounter.platform fits short
  obtain ⟨later,received,kept,lasts⟩ := receive_ready { before with server := server }
  have affected : Affects name before.server.device before.server.session answered := answerDispatch_affects begins proves payload
  have session : server.session.authentication = s.server.session.authentication := authentication.trans affected.1
  obtain ⟨connected,same⟩ := lasts ((congrArg (·.disconnectRequested) session).trans opened.lasting)
  have exchanged : s.exchange script (requestPacket cfg.auth.protocolVersion name.value requestId payload) =
      (.ok (server.response.toList.take server.responseLength),later) := by
    unfold DeviceSession.exchange
    simp only [before,encounter] at delivered received
    rw [opened.connected,if_neg (by simp)]
    simp only [fate,delivered]
    exact received
  dsimp only
  rw [exchanged]
  refine ⟨accepted,kept.trans changed,connected.trans opened.connected,?_,?_⟩
  · rw [same]
    exact (congrArg (·.authenticated) session).trans opened.authenticated
  · rw [same]
    exact (congrArg (·.disconnectRequested) session).trans opened.lasting

end Thermometer.Link
