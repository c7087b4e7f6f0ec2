import Thermometer.Firmware.BleServer

namespace Thermometer.Firmware
open Memory Wire

variable {cfg : FirmwareConfig} {device : Device cfg} {session : ProtocolSession} {opcode : UInt8}
  {requestId : UInt16} {capacity : Nat} {response : Vector UInt8 capacity} {payload : List UInt8}
  {platform : Platform} {outcome : Outcome cfg capacity}

-- What the header checks let through to the dispatcher, for an opcode it knows.
def acceptedRequest (cfg : FirmwareConfig) (request : List UInt8) : Option (Opcode × List UInt8) := do
  let version ← request[headerVersion]?
  let opcode ← request[headerOpcode]?
  let declaredPayloadLength ← readU16 request headerPayloadLength
  let status ← request[headerStatus]?
  let flags ← request[headerFlags]?
  if version = cfg.auth.protocolVersion ∧ status = 0 ∧ flags = 0 ∧
      declaredPayloadLength.toNat = request.length - headerSize then
    (Opcode.ofByte opcode).map (·,request.drop headerSize)
  else none

def authEffect (device : Device cfg) (authentication : AuthSession) (platform : Platform) :
    Option (Opcode × List UInt8) → AuthSession × Lockout
  | some (.authBegin,[]) => (applicationAuthBegin authentication device.lockout platform.nowUs platform.random).2
  | some (.authProve,proof) =>
    if proof.length = authProveRequestSize then
      (applicationAuthProve cfg.auth authentication device.lockout platform.nowUs
        device.thermometer.bootId proof).2
    else (authentication,device.lockout)
  | _ => (authentication,device.lockout)

theorem authEffect_prove (sized : proof.length = authProveRequestSize) :
    authEffect device authentication platform (some (.authProve,proof)) =
      (applicationAuthProve cfg.auth authentication device.lockout platform.nowUs
        device.thermometer.bootId proof).2 := by
  simp only [authEffect,if_pos sized]

theorem authEffect_short (wrong : proof.length ≠ authProveRequestSize) :
    authEffect device authentication platform (some (.authProve,proof)) =
      (authentication,device.lockout) := by
  simp only [authEffect,if_neg wrong]

def Untouched (device : Device cfg) (session : ProtocolSession) (outcome : Outcome cfg capacity) :
    Prop :=
  outcome.session = session ∧ outcome.device = device

theorem finishEmpty_untouched (finished : finishEmpty cfg device session opcode requestId response status =
    some outcome) : Untouched device session outcome := by
  simp only [finishEmpty,Option.bind_eq_bind,Option.bind_eq_some_iff] at finished
  obtain ⟨reply,_,made⟩ := finished
  cases Option.some.inj made
  exact ⟨rfl,rfl⟩

theorem handleGetCurrent_untouched (handled : handleGetCurrent cfg device session opcode requestId response =
    some outcome) : Untouched device session outcome := by
  unfold handleGetCurrent at handled
  split at handled
  · exact finishEmpty_untouched handled
  · simp only [Option.bind_eq_bind,Option.bind_eq_some_iff] at handled
    obtain ⟨_,_,_,_,_,_,_,_,_,_,_,_,_,_,_,_,equal⟩ := handled
    cases Option.some.inj equal
    exact ⟨rfl,rfl⟩

theorem handleGetHistoryChunk_untouched
    (handled : handleGetHistoryChunk cfg device session opcode requestId response payload compact =
      some outcome) : Untouched device session outcome := by
  unfold handleGetHistoryChunk at handled
  split at handled
  · exact finishEmpty_untouched handled
  · simp only [Option.bind_eq_bind,Option.bind_eq_some_iff] at handled
    obtain ⟨sensorId,_,startSequence,_,requested,_,handled⟩ := handled
    generalize (if compact then cfg.maxCompactHistoryRecords else cfg.maxHistoryRecords) = maxRecords at handled
    generalize (if compact then compactHistoryRecordSize else historyRecordSize) = recordSize at handled
    generalize (if headerSize + historyChunkPrefixSize < capacity then
      (capacity - (headerSize + historyChunkPrefixSize)) / recordSize else 0) = recordsThatFit at handled
    split at handled
    · exact finishEmpty_untouched handled
    · split at handled
      · exact finishEmpty_untouched handled
      · split at handled
        · exact finishEmpty_untouched handled
        · obtain ⟨copied,_,handled⟩ := Option.bind_eq_some_iff.mp handled
          cases copied with
          | none => exact finishEmpty_untouched handled
          | some records =>
            simp only [Option.bind_eq_some_iff] at handled
            obtain ⟨_,_,_,_,_,_,_,_,_,_,_,_,equal⟩ := handled
            cases Option.some.inj equal
            exact ⟨rfl,rfl⟩

def KeepsIdentity (device : Device cfg) (session : ProtocolSession) (outcome : Outcome cfg capacity) : Prop :=
  outcome.session.authentication = session.authentication ∧ outcome.device.lockout = device.lockout ∧
    outcome.device.thermometer.bootId = device.thermometer.bootId

theorem Untouched.keepsIdentity (untouched : Untouched device session outcome) :
    KeepsIdentity device session outcome := by
  obtain ⟨same,kept⟩ := untouched
  rw [KeepsIdentity,same,kept]
  exact ⟨rfl,rfl,rfl⟩

theorem handleSetDisplay_keeps (handled : handleSetDisplay cfg device session opcode requestId response payload =
    some outcome) : KeepsIdentity device session outcome := by
  unfold handleSetDisplay at handled
  split at handled
  · exact (finishEmpty_untouched handled).keepsIdentity
  · simp only [Option.bind_eq_bind,Option.bind_eq_some_iff] at handled
    obtain ⟨sensorId,_,enabled,_,handled⟩ := handled
    split at handled
    · exact (finishEmpty_untouched handled).keepsIdentity
    · split at handled
      · exact (finishEmpty_untouched handled).keepsIdentity
      · split at handled
        · exact (finishEmpty_untouched handled).keepsIdentity
        · simp only [Option.bind_eq_some_iff] at handled
          obtain ⟨_,_,_,_,_,_,_,_,equal⟩ := handled
          cases Option.some.inj equal
          exact ⟨rfl,rfl,setDisplay_bootId _⟩

theorem handleGetHistoryMeta_keeps
    (handled : handleGetHistoryMeta cfg device session opcode requestId response = some outcome) :
    KeepsIdentity device session outcome := by
  unfold handleGetHistoryMeta at handled
  split at handled
  · exact (finishEmpty_untouched handled).keepsIdentity
  · simp only [Option.bind_eq_bind,Option.bind_eq_some_iff] at handled
    obtain ⟨_,_,_,_,_,_,_,_,_,_,_,_,_,_,equal⟩ := handled
    cases Option.some.inj equal
    exact ⟨rfl,rfl,rfl⟩

theorem handleAuthenticated_keeps
    (handled : handleAuthenticated cfg device session opcode requestId response payload = some outcome) :
    KeepsIdentity device session outcome := by
  unfold handleAuthenticated at handled
  split at handled
  · split at handled
    · exact (finishEmpty_untouched handled).keepsIdentity
    · exact (handleGetCurrent_untouched handled).keepsIdentity
  · exact handleSetDisplay_keeps handled
  · split at handled
    · exact (finishEmpty_untouched handled).keepsIdentity
    · exact handleGetHistoryMeta_keeps handled
  · exact (handleGetHistoryChunk_untouched handled).keepsIdentity
  · exact (handleGetHistoryChunk_untouched handled).keepsIdentity
  · split at handled
    · exact (finishEmpty_untouched handled).keepsIdentity
    · obtain ⟨same,kept⟩ := finishEmpty_untouched handled
      rw [KeepsIdentity,same,kept]
      exact ⟨rfl,rfl,rfl⟩
  · exact (finishEmpty_untouched handled).keepsIdentity

def AuthenticationIs (device : Device cfg) (outcome : Outcome cfg capacity) (effect : AuthSession × Lockout) :
    Prop :=
  (outcome.session.authentication,outcome.device.lockout) = effect ∧
    outcome.device.thermometer.bootId = device.thermometer.bootId

theorem KeepsIdentity.authentication (keeps : KeepsIdentity device session outcome) :
    AuthenticationIs device outcome (session.authentication,device.lockout) := by
  obtain ⟨same,lockout,boot⟩ := keeps
  exact ⟨by rw [same,lockout],boot⟩

theorem Untouched.authentication (untouched : Untouched device session outcome) :
    AuthenticationIs device outcome (session.authentication,device.lockout) :=
  untouched.keepsIdentity.authentication

theorem handleAuthBegin_authentication
    (handled : handleAuthBegin cfg device session opcode requestId response platform = some outcome) :
    AuthenticationIs device outcome
      (applicationAuthBegin session.authentication device.lockout platform.nowUs platform.random).2 := by
  unfold handleAuthBegin at handled
  dsimp only at handled
  split at handled
  · exact (finishEmpty_untouched handled).authentication
  · split at handled
    · exact (finishEmpty_untouched handled).authentication
    · simp only [Option.bind_eq_bind,Option.bind_eq_some_iff] at handled
      obtain ⟨_,_,_,_,_,_,_,_,equal⟩ := handled
      cases Option.some.inj equal
      exact ⟨rfl,rfl⟩

def proveStatus : AuthResult → Status
  | .locked => .authenticationLocked
  | .failed => .authenticationFailed
  | .required => .authenticationRequired
  | .success => .success

theorem handleAuthProve_sized (cfg : FirmwareConfig) (device : Device cfg) (session : ProtocolSession)
    (opcode : UInt8) (requestId : UInt16) (response : Vector UInt8 capacity) (platform : Platform)
    (sized : payload.length = authProveRequestSize) :
    handleAuthProve cfg device session opcode requestId response platform payload =
      let (result,authentication,lockout) := applicationAuthProve cfg.auth session.authentication
        device.lockout platform.nowUs device.thermometer.bootId payload
      finishEmpty cfg { device with lockout := lockout } { session with authentication := authentication } opcode
        requestId response (proveStatus result) := by
  have whole : load payload 0 32 = some payload := by
    simp [load,sized,List.take_of_length_le]
  rw [handleAuthProve,if_neg (not_not.mpr sized),whole]
  simp only [Option.bind_eq_bind,Option.bind_some,currentSnapshot]
  split <;> rename_i result <;> simp only [result,proveStatus]

theorem handleAuthProve_authentication
    (handled : handleAuthProve cfg device session opcode requestId response platform payload = some outcome) :
    AuthenticationIs device outcome
      (authEffect device session.authentication platform (some (.authProve,payload))) := by
  by_cases sized : payload.length = authProveRequestSize
  · rw [handleAuthProve_sized cfg _ _ _ _ _ _ sized] at handled
    rw [authEffect_prove sized]
    exact (finishEmpty_untouched handled).authentication
  · rw [authEffect_short sized]
    rw [handleAuthProve,if_pos sized] at handled
    exact (finishEmpty_untouched handled).authentication

theorem dispatch_authentication
    (handled : dispatch cfg device session opcode requestId response platform payload = some outcome) :
    AuthenticationIs device outcome
      (authEffect device session.authentication platform ((Opcode.ofByte opcode).map (·,payload))) := by
  unfold dispatch at handled
  cases known : Opcode.ofByte opcode with
  | none =>
    simp only [known] at handled
    split at handled
    · exact (handleAuthenticated_keeps handled).authentication
    · exact (finishEmpty_untouched handled).authentication
  | some name =>
    simp only [known] at handled
    cases name with
    | authBegin =>
      simp only at handled
      split at handled
      · rename_i filled
        cases payload with
        | nil => exact absurd rfl filled
        | cons => exact (finishEmpty_untouched handled).authentication
      · rename_i empty
        have none : payload = [] := by simpa using empty
        subst none
        exact handleAuthBegin_authentication handled
    | authProve => exact handleAuthProve_authentication handled
    | _ =>
      simp only at handled
      split at handled
      · exact (handleAuthenticated_keeps handled).authentication
      · exact (finishEmpty_untouched handled).authentication

-- A request fails a header check, with an empty response that reads neither the
-- session nor the device, or it is dispatched.
theorem processRequest_cases (cfg : FirmwareConfig) (room : headerSize ≤ capacity) (request : List UInt8) :
    (acceptedRequest cfg request = none ∧ ∃ opcode requestId status, ∀ device session response platform,
      processRequest cfg device session (response : Vector UInt8 capacity) platform request =
        finishEmpty cfg device session opcode requestId (.replicate capacity 0) status) ∨
    (∃ opcode requestId, acceptedRequest cfg request =
        (Opcode.ofByte opcode).map (·,request.drop headerSize) ∧
      ∀ device session response platform,
        processRequest cfg device session (response : Vector UInt8 capacity) platform request =
          dispatch cfg device session opcode requestId (.replicate capacity 0) platform
            (request.drop headerSize)) := by
  have roomy : ¬ capacity < headerSize := Nat.not_lt.mpr room
  by_cases long : headerSize ≤ request.length
  · have at8 : ∀ index, index < headerSize → ∃ byte, request[index]? = some byte := fun index small =>
      ⟨_,List.getElem?_eq_getElem (by omega)⟩
    obtain ⟨version,b0⟩ := at8 headerVersion (by decide)
    obtain ⟨opcode,b1⟩ := at8 headerOpcode (by decide)
    obtain ⟨id0,b2⟩ := at8 2 (by decide)
    obtain ⟨id1,b3⟩ := at8 3 (by decide)
    obtain ⟨len0,b4⟩ := at8 4 (by decide)
    obtain ⟨len1,b5⟩ := at8 5 (by decide)
    obtain ⟨status,b6⟩ := at8 headerStatus (by decide)
    obtain ⟨flags,b7⟩ := at8 headerFlags (by decide)
    have inside : headerOpcode < request.length ∧ headerRequestId + 2 ≤ request.length ∧
        ¬ request.length < headerSize := by
      simp only [headerSize,headerOpcode,headerRequestId] at *; omega
    simp only [processRequest,acceptedRequest,echoedOpcode,echoedRequestId,if_neg roomy,if_pos inside.1,if_pos inside.2.1,
      if_neg inside.2.2,readU16,b0,b1,b2,b3,b4,b5,b6,b7,Option.bind_eq_bind,Option.bind_some]
    by_cases versioned : version = cfg.auth.protocolVersion
    · by_cases plain : status = 0 ∧ flags = 0 ∧
          (len0.toUInt16 ||| len1.toUInt16 <<< 8).toNat = request.length - headerSize
      · right
        refine ⟨opcode,id0.toUInt16 ||| id1.toUInt16 <<< 8,?_,?_⟩
        · rw [if_pos ⟨versioned,plain⟩]
        · intro device session response platform
          rw [if_neg (not_not.mpr versioned),if_neg (by tauto)]
      · left
        refine ⟨by rw [if_neg (by tauto)],opcode,id0.toUInt16 ||| id1.toUInt16 <<< 8,.invalidValue,?_⟩
        intro device session response platform
        rw [if_neg (not_not.mpr versioned),if_pos (by tauto)]
    · left
      refine ⟨by rw [if_neg (by tauto)],opcode,id0.toUInt16 ||| id1.toUInt16 <<< 8,.unsupportedVersion,?_⟩
      intro device session response platform
      rw [if_pos versioned]
  · left
    have short : request.length < headerSize := Nat.lt_of_not_le long
    have unread : acceptedRequest cfg request = none := by
      have missing : request[headerFlags]? = none :=
        List.getElem?_eq_none (by simp only [headerSize,headerFlags] at *; omega)
      simp [acceptedRequest,missing]
    refine ⟨unread,?_⟩
    have known : ∃ opcode, echoedOpcode request = some opcode := by
      unfold echoedOpcode
      split
      · exact ⟨_,List.getElem?_eq_getElem ‹_›⟩
      · exact ⟨0,rfl⟩
    have identified : ∃ requestId, echoedRequestId request = some requestId := by
      unfold echoedRequestId
      split
      · rename_i inside
        have first : request[headerRequestId]? = some _ := List.getElem?_eq_getElem (by omega)
        have second : request[headerRequestId + 1]? = some _ := List.getElem?_eq_getElem (by omega)
        refine ⟨request[headerRequestId].toUInt16 ||| request[headerRequestId + 1].toUInt16 <<< 8,?_⟩
        simp only [readU16,first,second,Option.bind_eq_bind,Option.bind_some]
      · exact ⟨0,rfl⟩
    obtain ⟨opcode,known⟩ := known
    obtain ⟨requestId,identified⟩ := identified
    refine ⟨opcode,requestId,.invalidValue,?_⟩
    intro device session response platform
    simp only [processRequest,if_neg roomy,known,identified,Option.bind_eq_bind,Option.bind_some,if_pos short]

theorem processRequest_authentication (room : headerSize ≤ capacity)
    (processed : processRequest cfg device session response platform request = some outcome) :
    AuthenticationIs device outcome
      (authEffect device session.authentication platform (acceptedRequest cfg request)) := by
  rcases processRequest_cases cfg room request with ⟨refused,_,_,_,same⟩ | ⟨_,_,accepted,same⟩
  · rw [same] at processed
    rw [refused]
    exact (finishEmpty_untouched processed).authentication
  · rw [same] at processed
    rw [accepted]
    exact dispatch_authentication processed

theorem finishResponse_total (cfg : FirmwareConfig) (room : headerSize ≤ capacity)
    (response : Vector UInt8 capacity) (opcode : UInt8) (requestId : UInt16) (status : Status)
    (payloadLength : Nat) :
    ∃ buffer, finishResponse cfg response opcode requestId status payloadLength =
      some ⟨buffer,headerSize + payloadLength⟩ := by
  have field (response : Vector UInt8 capacity) (offset : Nat) (bytes : List UInt8)
      (inside : offset + bytes.length ≤ headerSize) : ∃ later, store response offset bytes = some later :=
    store_inside response offset bytes (inside.trans room)
  obtain ⟨r0,s0⟩ := field response headerVersion [cfg.auth.protocolVersion] (by simp [headerSize,headerVersion])
  obtain ⟨r1,s1⟩ := field r0 headerOpcode [opcode] (by simp [headerSize,headerOpcode])
  obtain ⟨r2,s2⟩ := field r1 headerRequestId (u16Bytes requestId) (by simp [headerSize,headerRequestId])
  obtain ⟨r3,s3⟩ := field r2 headerPayloadLength (u16Bytes payloadLength.toUInt16) (by simp [headerSize,headerPayloadLength])
  obtain ⟨r4,s4⟩ := field r3 headerStatus [status.value] (by simp [headerSize,headerStatus])
  obtain ⟨r5,s5⟩ := field r4 headerFlags [cfg.responseFlag] (by simp [headerSize,headerFlags])
  exact ⟨r5,by simp only [finishResponse,s0,s1,s2,s3,s4,s5,Option.bind_eq_bind,Option.bind_some]⟩

theorem finishEmpty_total (cfg : FirmwareConfig) (room : headerSize ≤ capacity)
    (response : Vector UInt8 capacity) (opcode : UInt8) (requestId : UInt16) (status : Status) :
    ∃ reply, reply.length = headerSize ∧ ∀ device session,
      finishEmpty cfg device session opcode requestId response status = some ⟨reply,session,device⟩ := by
  obtain ⟨buffer,finished⟩ := finishResponse_total cfg room response opcode requestId status 0
  refine ⟨⟨buffer,headerSize + 0⟩,rfl,?_⟩
  intro device session
  simp only [finishEmpty,finished,Option.bind_eq_bind,Option.bind_some]

-- An answer that is the same for every content the thermometer may have in this
-- boot, and that leaves the thermometer and the bond alone. The reply is a bare
-- header unless it carries a challenge.
def Withholds (bootId : UInt32) (session : ProtocolSession) (challenge : Prop)
    (answer : State cfg.device → Option (Outcome cfg capacity)) : Prop :=
  ∃ reply authentication lockout,
    (reply.length = headerSize ∨ (challenge ∧ reply.length = headerSize + authBeginResponseSize)) ∧
    ∀ thermometer, thermometer.bootId = bootId →
      answer thermometer = some ⟨reply,{ session with authentication := authentication },⟨thermometer,lockout⟩⟩

theorem finishEmpty_withholds (room : headerSize ≤ capacity) (response : Vector UInt8 capacity)
    (session : ProtocolSession) (authentication : AuthSession) (lockout : Lockout) :
    Withholds bootId session challenge fun thermometer : State cfg.device =>
      finishEmpty cfg ⟨thermometer,lockout⟩ { session with authentication := authentication } opcode requestId
        response status := by
  obtain ⟨reply,length,same⟩ := finishEmpty_total cfg room response opcode requestId status
  exact ⟨reply,authentication,lockout,.inl length,fun thermometer _ => same _ _⟩

theorem handleAuthBegin_withholds (room : headerSize ≤ capacity) (response : Vector UInt8 capacity)
    (session : ProtocolSession) (lockout : Lockout) :
    Withholds bootId session True fun thermometer : State cfg.device =>
      handleAuthBegin cfg ⟨thermometer,lockout⟩ session opcode requestId response platform := by
  simp only [handleAuthBegin]
  generalize applicationAuthBegin session.authentication lockout platform.nowUs platform.random = begun
  obtain ⟨result,authentication,lockout⟩ := begun
  dsimp only
  split
  · exact finishEmpty_withholds room response session authentication lockout
  · split
    · exact finishEmpty_withholds room response session authentication lockout
    · rename_i fitting
      have large : headerSize + authBeginResponseSize ≤ capacity := by
        simp only [not_or,Nat.not_lt] at fitting; exact fitting.2
      have field (response : Vector UInt8 capacity) (offset : Nat) (bytes : List UInt8)
          (inside : offset + bytes.length ≤ headerSize + authBeginResponseSize) :
          ∃ later, store response offset bytes = some later :=
        store_inside response offset bytes (inside.trans large)
      obtain ⟨r0,s0⟩ := field response (headerSize + authBeginResponseDeviceId)
        authentication.deviceId.toList (by simp [headerSize,authBeginResponseSize,authBeginResponseDeviceId])
      obtain ⟨r1,s1⟩ := field r0 (headerSize + authBeginResponseBootId) (u32Bytes bootId)
        (by simp [headerSize,authBeginResponseSize,authBeginResponseBootId])
      obtain ⟨r2,s2⟩ := field r1 (headerSize + authBeginResponseNonce) authentication.nonce.toList
        (by simp [headerSize,authBeginResponseSize,authBeginResponseNonce])
      obtain ⟨buffer,finished⟩ := finishResponse_total cfg room r2 opcode requestId .success
        authBeginResponseSize
      refine ⟨⟨buffer,headerSize + authBeginResponseSize⟩,authentication,lockout,.inr ⟨trivial,rfl⟩,?_⟩
      intro thermometer boot
      simp only [currentSnapshot,boot,s0,s1,s2,finished,Option.bind_eq_bind,Option.bind_some]

theorem handleAuthProve_withholds (room : headerSize ≤ capacity) (response : Vector UInt8 capacity)
    (session : ProtocolSession) (lockout : Lockout) :
    Withholds bootId session challenge fun thermometer : State cfg.device =>
      handleAuthProve cfg ⟨thermometer,lockout⟩ session opcode requestId response platform payload := by
  by_cases sized : payload.length = authProveRequestSize
  · cases proved : applicationAuthProve cfg.auth session.authentication lockout platform.nowUs bootId payload with
    | mk result changed =>
      obtain ⟨reply,length,same⟩ := finishEmpty_total cfg room response opcode requestId (proveStatus result)
      refine ⟨reply,changed.1,changed.2,.inl length,?_⟩
      intro thermometer boot
      simp only [handleAuthProve_sized cfg _ _ _ _ _ _ sized,boot,proved,same]
  · simp only [handleAuthProve,ne_eq,sized,not_false_eq_true,if_true]
    exact finishEmpty_withholds room response session session.authentication lockout

theorem dispatch_withholds (cfg : FirmwareConfig) (room : headerSize ≤ capacity)
    (response : Vector UInt8 capacity) (bootId : UInt32) (session : ProtocolSession) (lockout : Lockout)
    (closed : session.authentication.authenticated = false) (opcode : UInt8) (requestId : UInt16)
    (platform : Platform) (payload : List UInt8) :
    Withholds bootId session ((Opcode.ofByte opcode).map (·,payload) = some (.authBegin,[]))
      fun thermometer : State cfg.device =>
        dispatch cfg ⟨thermometer,lockout⟩ session opcode requestId response platform payload := by
  unfold dispatch
  cases known : Opcode.ofByte opcode with
  | none =>
    simp only [closed]
    exact finishEmpty_withholds room response session session.authentication lockout
  | some name =>
    cases name with
    | authBegin =>
      cases payload with
      | nil => simpa using handleAuthBegin_withholds room response session lockout
      | cons first rest =>
        simp only [List.length_cons]
        exact finishEmpty_withholds room response session session.authentication lockout
    | authProve => exact handleAuthProve_withholds room response session lockout
    | _ =>
      simp only [closed]
      exact finishEmpty_withholds room response session session.authentication lockout

theorem processRequest_withholds (cfg : FirmwareConfig) (room : headerSize ≤ capacity) (bootId : UInt32)
    (session : ProtocolSession) (lockout : Lockout) (closed : session.authentication.authenticated = false)
    (platform : Platform) (request : List UInt8) :
    ∃ reply authentication changed,
      (reply.length = headerSize ∨ (acceptedRequest cfg request = some (.authBegin,[]) ∧
        reply.length = headerSize + authBeginResponseSize)) ∧
      ∀ (response : Vector UInt8 capacity) (thermometer : State cfg.device), thermometer.bootId = bootId →
        processRequest cfg ⟨thermometer,lockout⟩ session response platform request =
          some ⟨reply,{ session with authentication := authentication },⟨thermometer,changed⟩⟩ := by
  rcases processRequest_cases cfg room request with ⟨_,opcode,requestId,status,same⟩ | ⟨opcode,requestId,accepted,same⟩
  · obtain ⟨reply,length,answered⟩ := finishEmpty_total cfg room (.replicate capacity 0) opcode requestId status
    refine ⟨reply,session.authentication,lockout,.inl length,?_⟩
    intro response thermometer _
    rw [same,answered]
  · obtain ⟨reply,authentication,changed,length,answered⟩ := dispatch_withholds cfg room (.replicate capacity 0)
      bootId session lockout closed opcode requestId platform (request.drop headerSize)
    refine ⟨reply,authentication,changed,?_,?_⟩
    · rw [accepted]; exact length
    · intro response thermometer boot
      rw [same]
      exact answered thermometer boot

end Thermometer.Firmware
