import Thermometer.Link.RoundTrip
import Thermometer.Client.ThermometerClient

-- The client's proof is the one that the firmware computes for itself.
namespace Thermometer.Link
open Memory Wire Struct Firmware
open Client.Protocol (ProtocolConfig ThermometerClient Transport asciiBytes validatePasskey computeAuthenticationProof)

variable {cfg : FirmwareConfig}

def quote : Char := Char.ofNat 34
def backslash : Char := Char.ofNat 92

def printable (c : Char) : Bool := ' ' ≤ c && c ≤ '~'

-- The characters with a short escape, the same in JSON and in C.
def shortEscapes : List (Char × Char) :=
  [(quote,quote),(backslash,backslash),(Char.ofNat 10,'n'),(Char.ofNat 13,'r'),(Char.ofNat 9,'t'),(Char.ofNat 12,'f'),
    (Char.ofNat 8,'b')]

def hexDigits (n : Nat) : List Char :=
  let digit (n : Nat) := ("0123456789abcdef".toList[n % 16]?).getD '0'
  [digit (n / 4096),digit (n / 256),digit (n / 16),digit n]

-- `json.dumps` writes two surrogates for a character beyond the basic plane.
def unicodeEscape (c : Char) : List Char :=
  let n := c.toNat
  if n < 0x10000 then backslash :: 'u' :: hexDigits n
  else backslash :: 'u' :: hexDigits (0xd800 + (n - 0x10000) / 1024) ++
    backslash :: 'u' :: hexDigits (0xdc00 + (n - 0x10000) % 1024)

def jsonCharacter (c : Char) : List Char :=
  match shortEscapes.lookup c with
  | some letter => [backslash,letter]
  | none => if printable c then [c] else unicodeEscape c

-- `c_string` of generate_firmware_config.py.
def cString (value : String) : List Char := quote :: (value.toList.flatMap jsonCharacter ++ [quote])

-- How a C compiler reads the characters behind the opening quote. Escapes that are not
-- in the table are left out, and trigraphs are off in GNU C.
def cCharacters : List Char → Option (List UInt8)
  | [] => none
  | c :: rest =>
    if c = quote then if rest = [] then some [] else none
    else if c = backslash then
      match rest with
      | [] => none
      | letter :: rest => do
        let (value,_) ← shortEscapes.find? (·.2 == letter)
        let bytes ← cCharacters rest
        some (value.toNat.toUInt8 :: bytes)
    else do
      let bytes ← cCharacters rest
      some (c.toNat.toUInt8 :: bytes)

-- The array that a string literal initialises, without its terminator.
def cLiteral : List Char → Option (List UInt8)
  | [] => none
  | c :: rest => if c = quote then cCharacters rest else none

theorem jsonCharacter_plain {c : Char} (readable : printable c) (isQuote : c ≠ quote) (isBackslash : c ≠ backslash) :
    jsonCharacter c = [c] := by
  have visible : 32 ≤ c.toNat := by
    simp only [printable,Bool.and_eq_true,decide_eq_true_eq] at readable
    exact readable.1
  have other (control : Char) (low : control.toNat < 32) : (c == control) = false := by
    apply beq_false_of_ne
    rintro rfl
    omega
  have missing : shortEscapes.lookup c = none := by
    simp only [shortEscapes,List.lookup_cons,List.lookup_nil,beq_false_of_ne isQuote,beq_false_of_ne isBackslash,
      other (Char.ofNat 10) (by decide),other (Char.ofNat 13) (by decide),other (Char.ofNat 9) (by decide),
      other (Char.ofNat 12) (by decide),other (Char.ofNat 8) (by decide)]
  unfold jsonCharacter
  rw [missing]
  exact if_pos readable

-- What JSON writes for a printable character, C reads as this character.
theorem cCharacters_json {c : Char} (readable : printable c) (rest : List Char) :
    cCharacters (jsonCharacter c ++ rest) = (c.toNat.toUInt8 :: ·) <$> cCharacters rest := by
  by_cases isQuote : c = quote
  · subst isQuote
    have escaped : jsonCharacter quote = [backslash,quote] := by decide
    have found : shortEscapes.find? (·.2 == quote) = some (quote,quote) := by decide
    rw [escaped,List.cons_append,List.cons_append,List.nil_append,cCharacters,if_neg (by decide),if_pos rfl]
    simp only [found]
    cases cCharacters rest <;> rfl
  · by_cases isBackslash : c = backslash
    · subst isBackslash
      have escaped : jsonCharacter backslash = [backslash,backslash] := by decide
      have found : shortEscapes.find? (·.2 == backslash) = some (backslash,backslash) := by decide
      rw [escaped,List.cons_append,List.cons_append,List.nil_append,cCharacters,if_neg (by decide),if_pos rfl]
      simp only [found]
      cases cCharacters rest <;> rfl
    · rw [jsonCharacter_plain readable isQuote isBackslash,List.cons_append,List.nil_append,cCharacters.eq_def]
      simp only [if_neg isQuote,if_neg isBackslash]
      cases cCharacters rest <;> rfl

theorem cLiteral_cString {value : String} (readable : value.toList.all printable) :
    cLiteral (cString value) = some (asciiBytes value) := by
  have characters : ∀ text : List Char, text.all printable →
      cCharacters (text.flatMap jsonCharacter ++ [quote]) = some (text.map fun c => c.toNat.toUInt8) := by
    intro text
    induction text with
    | nil => exact fun _ => by simp [cCharacters]
    | cons c rest ih =>
      intro readable
      rw [List.all_cons,Bool.and_eq_true] at readable
      rw [List.flatMap_cons,List.append_assoc,cCharacters_json readable.1,ih readable.2]
      rfl
  unfold cLiteral cString
  simp only [if_true]
  exact characters value.toList readable

def domainConfig (cfg : FirmwareConfig) (domainSeparator : String) : ProtocolConfig :=
  { clientConfig cfg with domainSeparator := domainSeparator }

variable {config : ProtocolConfig} {deviceId other : Vector UInt8 6} {bootId boot : UInt32} {nonce fresh : Vector UInt8 16}

theorem proofMessage_agrees (version : config.protocolVersion = cfg.auth.protocolVersion)
    (domain : asciiBytes config.domainSeparator = cfg.auth.domain) (deviceId : Vector UInt8 6) (bootId : UInt32)
    (nonce : Vector UInt8 16) :
    Client.Protocol.proofMessage config ⟨deviceId.toList,bootId,nonce.toList⟩ =
      proofMessage cfg.auth deviceId bootId nonce := by
  simp only [Client.Protocol.proofMessage,proofMessage,version,domain]

-- All fields have their fixed places, counted from the end.
theorem proofMessage_injective (auth : AuthConfig)
    (same : proofMessage auth deviceId bootId nonce = proofMessage auth other boot fresh) :
    deviceId = other ∧ bootId = boot ∧ nonce = fresh := by
  unfold proofMessage at same
  obtain ⟨front,nonces⟩ := List.append_inj' same (by simp)
  obtain ⟨front,boots⟩ := List.append_inj' front (by simp)
  obtain ⟨_,devices⟩ := List.append_inj' front (by simp)
  refine ⟨Vector.toList_inj.mp devices,?_,Vector.toList_inj.mp nonces⟩
  simp only [u32Bytes,List.cons.injEq,and_true] at boots
  rw [← u32_join bootId,boots.1,boots.2.1,boots.2.2.1,boots.2.2.2,u32_join]

theorem decodeChallenge_bytes (version : UInt8) (requestId : UInt16) (status : Status) (bootId : UInt32)
    (authentication : AuthSession) :
    Client.Protocol.decodeAuthenticationChallenge
        ⟨version,.authBegin,requestId,status,challengeBytes bootId authentication⟩ =
      .ok ⟨authentication.deviceId.toList,bootId,authentication.nonce.toList⟩ := by
  have unpacked : unpack Client.Protocol.authBeginResponse (challengeBytes bootId authentication) =
      some ⟨authentication.deviceId.toList,bootId,authentication.nonce.toList⟩ := by
    apply unpack_run
    have deviceId : authentication.deviceId.toList.length = 6 := by simp
    have nonce : authentication.nonce.toList.length = 16 := by simp
    simp [Client.Protocol.authBeginResponse,challengeBytes,bytes_run _ deviceId,bytes_run_last _ nonce]
  unfold Client.Protocol.decodeAuthenticationChallenge
  rw [if_neg (by simp)]
  simp only [Client.Protocol.unpackLayout,unpacked]

-- A server and what happens to it: before each request of the client the sensors go on,
-- and the request finds a time and a supply of random bytes.
structure Connection (cfg : FirmwareConfig) where
  server : Server cfg
  arrivals : List (List Event × Platform)

def Connection.exchange (request : List UInt8) (s : Connection cfg) : Except Client.Failure (List UInt8) × Connection cfg :=
  match s.arrivals with
  | [] => (.error (.other "GATT request write failed"),s)
  | (events,platform) :: arrivals =>
    let thermometer := run s.server.device.thermometer events
    let server := { s.server with device := { s.server.device with thermometer := thermometer } }
    match writeRequest server request platform true none with
    | some (.success,server) =>
      match readResponse server true with
      | (some raw,_,server) => (.ok raw,⟨server,arrivals⟩)
      | (none,_,server) => (.error (.other "GATT response read failed"),⟨server,arrivals⟩)
    | _ => (.error (.other "GATT request write failed"),⟨server,arrivals⟩)

def serverTransport (cfg : FirmwareConfig) (mtuSize : Nat) : Transport (Connection cfg) where
  exchange := Connection.exchange
  mtuSize _ := mtuSize

def Connection.Answered (s : Connection cfg) (answered : Answer cfg) (arrivals : List (List Event × Platform)) : Prop :=
  s.arrivals = arrivals ∧ s.server.device = answered.device ∧
    s.server.session.authentication = (takeDisconnect answered.session.authentication).2

theorem exchange_server (values : SharedValues cfg) (mtuSize : Nat) (domainSeparator : String)
    (name : Opcode) (payload : List UInt8) (fits : headerSize + payload.length ≤ cfg.maxPacketSize)
    (short : payload.length < 65536) (client : ThermometerClient (Connection cfg)) (requestId : UInt16)
    (arriving : client.connection.arrivals = (events,platform) :: arrivals) :
    let device := { client.connection.server.device with
      thermometer := run client.connection.server.device.thermometer events }
    let answered := answerDispatch cfg.maxPacketSize device client.connection.server.session name.value platform payload
    ∃ later : Connection cfg, later.Answered answered arrivals ∧
      client.exchangePacket (domainConfig cfg domainSeparator) (serverTransport cfg mtuSize)
          (requestPacket cfg.auth.protocolVersion name.value requestId payload) name requestId =
        (accept cfg.auth.protocolVersion name requestId answered.status answered.payload,
          { client with connection := later }) := by
  intro device answered
  let server := { client.connection.server with device := device }
  let request := requestPacket cfg.auth.protocolVersion name.value requestId payload
  have inside : ¬ (request.length < headerSize ∨ cfg.maxPacketSize < request.length) := by
    simp only [request,requestPacket_length]
    omega
  obtain ⟨outcome,processed,session,changed,stated,parsed⟩ := request_accepted values (maxPacketSize_header cfg) device
    server.session server.response platform (requestPacket_echo : echo request = (name.value,requestId))
  rw [show answer cfg.maxPacketSize device server.session platform request = answered from
    answer_requestPacket short device server.session platform] at session changed stated parsed
  have answers : 0 < outcome.reply.length := by
    by_contra none
    simp [Nat.eq_zero_of_not_pos none] at stated
  have served : processRequest cfg server.device server.session server.response platform request = some outcome := processed
  have wrote : writeRequest server request platform true none =
      some (.success,scheduleBondReset (server.withOutcome outcome) outcome.session.bondResetRequested none) := by
    rw [writeRequest,if_neg inside,if_neg (by simp),served]
    simp [answers]
  have unscheduled : scheduleBondReset (server.withOutcome outcome) outcome.session.bondResetRequested none =
      server.withOutcome outcome := by
    cases outcome.session.bondResetRequested <;> rfl
  rw [unscheduled] at wrote
  refine ⟨⟨(readResponse (server.withOutcome outcome) true).2.2,arrivals⟩,⟨rfl,changed,?_⟩,?_⟩
  · rw [← session]
    rfl
  · simp only [ThermometerClient.exchangePacket,serverTransport,Connection.exchange,arriving]
    simp only [request,server,device] at wrote
    rw [wrote]
    exact Prod.ext parsed rfl

theorem validatePasskey_ok {passkey : String} (digits : validatePasskey passkey = .ok passkey) :
    passkey.length = 6 ∧ passkey.toList.all printable := by
  unfold validatePasskey at digits
  split at digits
  · cases digits
  · rename_i valid
    simp only [not_or,not_not,Bool.not_eq_true',Bool.not_eq_false] at valid
    obtain ⟨length,_,decimal⟩ := valid
    refine ⟨length,?_⟩
    rw [List.all_eq_true] at decimal ⊢
    intro c member
    have digit := decimal c member
    simp only [Char.isDigit,Bool.and_eq_true,decide_eq_true_eq] at digit
    simp only [printable,Bool.and_eq_true,decide_eq_true_eq]
    exact ⟨Nat.le_trans (by decide) digit.1,Nat.le_trans digit.2 (by decide)⟩

variable {device : Device cfg} {session : ProtocolSession} {platform : Platform}

theorem answerAuthBegin_unlocked (device : Device cfg) (session : ProtocolSession)
    (large : headerSize + authBeginResponseSize ≤ cfg.maxPacketSize)
    (unlocked : (isLocked device.lockout platform.nowUs).1 = false) :
    ∃ lockout, lockout.lockedUntilUs = 0 ∧
      answerDispatch cfg.maxPacketSize device session (Opcode.value .authBegin) platform [] =
        let authentication := { session.authentication with
          nonce := platform.random, issuedAtUs := platform.nowUs, challengeActive := true, authenticated := false }
        ⟨.success,challengeBytes device.thermometer.bootId authentication,{ session with authentication := authentication },
          { device with lockout := lockout }⟩ := by
  obtain ⟨later,checked,cleared⟩ := isLocked_unlocked unlocked
  refine ⟨later,cleared,?_⟩
  simp only [answerDispatch,opcode_ofByte,List.length_nil,ne_eq,not_true_eq_false,if_false,answerAuthBegin,
    applicationAuthBegin,checked,false_or,if_neg (Nat.not_lt.mpr large),reduceCtorEq]

theorem answerAuthProve_accepted (device : Device cfg) (session : ProtocolSession) {proof : List UInt8}
    (unlocked : device.lockout.lockedUntilUs = 0)
    (active : session.authentication.challengeActive = true)
    (punctual : platform.nowUs - session.authentication.issuedAtUs ≤ maximumAgeUs cfg.auth)
    (length : proof.length = authProveRequestSize)
    (computed : calculateProof cfg.auth session.authentication.deviceId device.thermometer.bootId
      session.authentication.nonce = some proof) :
    let answered := answerDispatch cfg.maxPacketSize device session (Opcode.value .authProve) platform proof
    answered.status = .success ∧ answered.session.authentication.authenticated = true := by
  have valid := (proofValid_iff length).mpr computed
  simp [answerDispatch,answerAuthProve,length,applicationAuthProve,isLocked,unlocked,active,not_lt.mpr punctual,valid,
    proveStatus]

structure Challenged (server : Server cfg) (deviceId : Vector UInt8 6) (bootId : UInt32) (platform : Platform) : Prop where
  deviceId : server.session.authentication.deviceId = deviceId
  bootId : server.device.thermometer.bootId = bootId
  nonce : server.session.authentication.nonce = platform.random
  issuedAtUs : server.session.authentication.issuedAtUs = platform.nowUs
  active : server.session.authentication.challengeActive = true
  unlocked : server.device.lockout.lockedUntilUs = 0

variable {domainSeparator passkey : String} {before between : List Event} {begun proven : Platform}
  {arrivals : List (List Event × Platform)}

theorem beginAuthentication_server (values : SharedValues cfg)
    (large : headerSize + authBeginResponseSize ≤ cfg.maxPacketSize) (domainSeparator : String) (mtuSize : Nat)
    (client : ThermometerClient (Connection cfg)) (arriving : client.connection.arrivals = (before,begun) :: arrivals)
    (unlocked : (isLocked client.connection.server.device.lockout begun.nowUs).1 = false) :
    let deviceId := client.connection.server.session.authentication.deviceId
    let bootId := client.connection.server.device.thermometer.bootId
    ∃ later : Connection cfg, later.arrivals = arrivals ∧ Challenged later.server deviceId bootId begun ∧
      client.beginAuthentication (domainConfig cfg domainSeparator) (serverTransport cfg mtuSize) =
        (.ok ⟨deviceId.toList,bootId,begun.random.toList⟩,{ client.nextRequestId with connection := later }) := by
  have built : Client.Protocol.buildRequest (domainConfig cfg domainSeparator) .authBegin client.nextRequestId.requestId.toNat
      [] = .ok (requestPacket cfg.auth.protocolVersion (Opcode.value .authBegin) client.nextRequestId.requestId []) :=
    buildRequest_packet _ _ _ (by decide)
  obtain ⟨later,answered,asked⟩ := exchange_server values mtuSize domainSeparator .authBegin [] (by simp at large ⊢; omega)
    (by decide) client.nextRequestId client.nextRequestId.requestId arriving
  obtain ⟨lockout,unset,challenged⟩ := answerAuthBegin_unlocked { client.connection.server.device with
    thermometer := run client.connection.server.device.thermometer before } client.connection.server.session large unlocked
  simp only [ThermometerClient.nextRequestId] at asked answered built challenged
  rw [challenged] at asked answered
  obtain ⟨rest,device,authentication⟩ := answered
  refine ⟨later,rest,?_,?_⟩
  · constructor
    · rw [authentication]
      rfl
    · rw [device]
      exact run_bootId _ _
    · rw [authentication]
      rfl
    · rw [authentication]
      rfl
    · rw [authentication]
      rfl
    · rw [device]
      exact unset
  · simp only [ThermometerClient.beginAuthentication,ThermometerClient.request,ThermometerClient.nextRequestId,built]
    rw [asked,accept,if_pos rfl]
    simp only [Except.bind,decodeChallenge_bytes,run_bootId]

theorem prove_server (values : SharedValues cfg) (large : headerSize + authProveRequestSize ≤ cfg.maxPacketSize)
    (domainSeparator : String) (mtuSize : Nat) (client : ThermometerClient (Connection cfg))
    (arriving : client.connection.arrivals = (between,proven) :: arrivals)
    (challenged : Challenged client.connection.server deviceId bootId begun)
    (punctual : proven.nowUs - begun.nowUs ≤ maximumAgeUs cfg.auth) {proof : List UInt8}
    (length : proof.length = authProveRequestSize)
    (computed : calculateProof cfg.auth deviceId bootId begun.random = some proof) (requestId : UInt16) :
    ∃ response later, client.exchangePacket (domainConfig cfg domainSeparator)
        (serverTransport cfg mtuSize) (requestPacket cfg.auth.protocolVersion (Opcode.value .authProve) requestId proof)
        .authProve requestId = (.ok response,{ client with connection := later }) ∧
      later.server.session.authentication.authenticated = true := by
  obtain ⟨later,⟨_,_,authentication⟩,asked⟩ := exchange_server values mtuSize domainSeparator .authProve proof
    (by rw [length]; exact large) (by rw [length]; decide) client requestId arriving
  have expected : calculateProof cfg.auth client.connection.server.session.authentication.deviceId
      (run client.connection.server.device.thermometer between).bootId
      client.connection.server.session.authentication.nonce = some proof := by
    rw [challenged.deviceId,run_bootId,challenged.bootId,challenged.nonce,computed]
  have age : proven.nowUs - client.connection.server.session.authentication.issuedAtUs ≤ maximumAgeUs cfg.auth := by
    rw [challenged.issuedAtUs]
    exact punctual
  obtain ⟨success,authenticated⟩ := answerAuthProve_accepted { client.connection.server.device with
    thermometer := run client.connection.server.device.thermometer between } client.connection.server.session
    challenged.unlocked challenged.active age length expected
  rw [success,accept,if_pos rfl] at asked
  refine ⟨_,later,asked,?_⟩
  rw [authentication]
  exact authenticated

-- Both sides build the same message, different challenges have different messages, and
-- the proof that the client computes is accepted within its time.
theorem handshake_agrees (values : SharedValues cfg) (large : headerSize + authProveRequestSize ≤ cfg.maxPacketSize)
    (readable : domainSeparator.toList.all printable) (digits : validatePasskey passkey = .ok passkey)
    (domain : cLiteral (cString domainSeparator) = some cfg.auth.domain)
    (key : cLiteral (cString passkey) = some cfg.auth.passkey)
    (psa : ∀ message, cfg.auth.psaMac cfg.auth.passkey message = some (Sha256.hmac cfg.auth.passkey message)) :
    let config := domainConfig cfg domainSeparator
    (∀ (deviceId : Vector UInt8 6) (bootId : UInt32) (nonce : Vector UInt8 16),
      Client.Protocol.proofMessage config ⟨deviceId.toList,bootId,nonce.toList⟩ = proofMessage cfg.auth deviceId bootId nonce) ∧
    (∀ (deviceId other : Vector UInt8 6) (bootId boot : UInt32) (nonce fresh : Vector UInt8 16),
      (deviceId,bootId,nonce) ≠ (other,boot,fresh) →
      proofMessage cfg.auth deviceId bootId nonce ≠ proofMessage cfg.auth other boot fresh) ∧
    ∀ (mtuSize : Nat) (client : ThermometerClient (Connection cfg)) (before between : List Event)
      (begun proven : Platform) (arrivals : List (List Event × Platform)),
      client.connection.arrivals = (before,begun) :: (between,proven) :: arrivals →
      (isLocked client.connection.server.device.lockout begun.nowUs).1 = false →
      proven.nowUs - begun.nowUs ≤ maximumAgeUs cfg.auth →
      let authenticated := client.authenticate config (serverTransport cfg mtuSize) (some passkey)
      authenticated.1 = .ok () ∧ authenticated.2.connection.server.session.authentication.authenticated = true := by
  obtain ⟨six,decimal⟩ := validatePasskey_ok digits
  have text : asciiBytes domainSeparator = cfg.auth.domain := Option.some.inj ((cLiteral_cString readable).symm.trans domain)
  have keyText : asciiBytes passkey = cfg.auth.passkey := Option.some.inj ((cLiteral_cString decimal).symm.trans key)
  have agrees (deviceId : Vector UInt8 6) (bootId : UInt32) (nonce : Vector UInt8 16) :
      Client.Protocol.proofMessage (domainConfig cfg domainSeparator) ⟨deviceId.toList,bootId,nonce.toList⟩ =
        proofMessage cfg.auth deviceId bootId nonce := proofMessage_agrees rfl text deviceId bootId nonce
  refine ⟨agrees,?_,?_⟩
  · intro deviceId other bootId boot nonce fresh different same
    obtain ⟨rfl,rfl,rfl⟩ := proofMessage_injective cfg.auth same
    exact different rfl
  · intro mtuSize client before between begun proven arrivals arriving unlocked punctual
    have challengeFits : headerSize + authBeginResponseSize ≤ cfg.maxPacketSize := Nat.le_trans (by decide) large
    obtain ⟨later,rest,challenged,issued⟩ := beginAuthentication_server values challengeFits domainSeparator mtuSize
      { client with passkey := some passkey } arriving unlocked
    let deviceId := client.connection.server.session.authentication.deviceId
    let bootId := client.connection.server.device.thermometer.bootId
    let proof := Sha256.hmac cfg.auth.passkey (proofMessage cfg.auth deviceId bootId begun.random)
    have length : proof.length = authProveRequestSize := Sha256.hmac_length _ _
    have sent : computeAuthenticationProof (domainConfig cfg domainSeparator) passkey
        ⟨deviceId.toList,bootId,begun.random.toList⟩ = .ok proof := by
      have message := agrees deviceId bootId begun.random
      simp [computeAuthenticationProof,digits,bind,Except.bind,message,keyText,proof]
    have expected : calculateProof cfg.auth deviceId bootId begun.random = some proof := by
      have size : cfg.auth.passkey.length = 6 := by
        rw [← keyText]
        simpa only [asciiBytes,List.length_map,String.length_toList] using six
      simp [calculateProof,size,psa,proof]
    have built (requestId : UInt16) : Client.Protocol.buildAuthenticationProofRequest (domainConfig cfg domainSeparator)
        requestId.toNat proof = .ok (requestPacket cfg.auth.protocolVersion (Opcode.value .authProve) requestId proof) := by
      rw [Client.Protocol.buildAuthenticationProofRequest,if_neg (not_not.mpr length)]
      exact buildRequest_packet _ _ _ (by rw [length]; decide)
    obtain ⟨response,last,exchanged,authenticated⟩ := prove_server values large domainSeparator mtuSize
      (ThermometerClient.nextRequestId { (ThermometerClient.nextRequestId { client with passkey := some passkey }) with
        connection := later }) rest challenged punctual length expected _
    have complete := ThermometerClient.authenticate_steps digits issued sent (built _) exchanged
    dsimp only
    rw [complete]
    exact ⟨rfl,authenticated⟩

-- A domain with both characters that need an escape, and a passkey with leading zeros.
def quotedDomain : String := String.ofList ['A',quote,backslash]

def quotedConfig : FirmwareConfig :=
  let shipped := shippedConfig [48,48,48,48,52,50] fun key message => some (Sha256.hmac key message)
  { shipped with auth := { shipped.auth with domain := [65,34,92] } }

def arrivingClient : ThermometerClient (Connection quotedConfig) :=
  ⟨none,7,none,⟨serverStart quotedConfig 9 (.replicate 6 1),
    [([.tick],⟨1000,.replicate 16 5⟩),([],⟨5001000,.replicate 16 6⟩)]⟩⟩

theorem quotedConfig_mac (message : List UInt8) :
    quotedConfig.auth.psaMac quotedConfig.auth.passkey message = some (Sha256.hmac quotedConfig.auth.passkey message) := by
  simp only [quotedConfig,shippedConfig]

theorem handshake_agrees_leading_zeros :
    (arrivingClient.authenticate (domainConfig quotedConfig quotedDomain) (serverTransport quotedConfig 247)
      (some "000042")).1 = .ok () := by
  have values : SharedValues quotedConfig := ⟨by decide,by decide,by decide⟩
  have digits : validatePasskey "000042" = .ok "000042" := by rfl
  have domain : cLiteral (cString quotedDomain) = some quotedConfig.auth.domain := by decide +kernel
  have key : cLiteral (cString "000042") = some quotedConfig.auth.passkey := by decide +kernel
  obtain ⟨_,_,accepted⟩ := handshake_agrees values (by decide) (by decide +kernel) digits domain key quotedConfig_mac
  exact (accepted 247 arrivingClient [.tick] [] ⟨1000,.replicate 16 5⟩ ⟨5001000,.replicate 16 6⟩ [] rfl rfl (by decide)).1

end Thermometer.Link
